import DocumentDb.Value.Same

/-!
# Expressions

An expression computes a value from a document: a constant, the value at a path, an operator
applied to an argument, or a document or array of expressions. Operators that take several
arguments are applied to an array of them.

An operand that could not be encoded stays in the expression as `invalid`; `invalidReason?` finds
the first one.
-/

namespace DocumentDb

/-- A computation of a value from a document. -/
inductive Expression where
  | literal (v : Value)
  | path (name : String)
  | operator (name : String) (argument : Expression)
  | object (entries : List (String × Expression))
  | array (items : List Expression)
  | invalid (reason : String)
deriving Inhabited

namespace Expression

/-- The constant null, by which everything falls into one group. -/
def null : Expression :=
  literal .null

end Expression

mutual

/-- The reason of the first operand that could not be encoded. -/
def Expression.invalidReason? : Expression → Option String
  | .literal _ => none
  | .path _ => none
  | .operator _ argument => argument.invalidReason?
  | .object entries => invalidReasonOfEntries? entries
  | .array items => invalidReasonOfItems? items
  | .invalid reason => some reason

/-- The first reason among some expressions. -/
def invalidReasonOfItems? : List Expression → Option String
  | [] => none
  | e :: es => e.invalidReason?.or (invalidReasonOfItems? es)

/-- The first reason among the expressions of some entries. -/
def invalidReasonOfEntries? : List (String × Expression) → Option String
  | [] => none
  | (_, e) :: es => e.invalidReason?.or (invalidReasonOfEntries? es)

end

mutual

/-- Whether two expressions are built alike from the same constants. -/
def Expression.same : Expression → Expression → Bool
  | .literal v, .literal w => v.same w
  | .path p, .path q => p == q
  | .operator n a, .operator m b => n == m && a.same b
  | .object es, .object fs => sameExpressionEntries es fs
  | .array es, .array fs => sameExpressions es fs
  | .invalid r, .invalid s => r == s
  | _, _ => false

/-- Whether two lists hold expressions built alike. -/
def sameExpressions : List Expression → List Expression → Bool
  | [], [] => true
  | e :: es, f :: fs => e.same f && sameExpressions es fs
  | _, _ => false

/-- Whether two lists hold entries built alike, in the same order. -/
def sameExpressionEntries : List (String × Expression) → List (String × Expression) → Bool
  | [], [] => true
  | (k, e) :: es, (l, f) :: fs => k == l && e.same f && sameExpressionEntries es fs
  | _, _ => false

end

end DocumentDb
