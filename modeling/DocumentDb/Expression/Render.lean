import DocumentDb.Error
import DocumentDb.Expression

/-!
# Expressions as values

`Expression.render` writes an expression as the value that a database is given for it: a path is
a string with a dollar sign in front, and an operator a document with one entry. A string
constant that itself begins with a dollar sign is marked as a constant, since it would be read
back as a path.
-/

namespace DocumentDb

/-- Whether a text begins with a dollar sign. -/
def startsWithDollar (s : String) : Bool :=
  match s.toList with
  | c :: _ => c == '$'
  | [] => false

namespace Expression

/-- Marks a value as a constant. -/
def markLiteral (v : Value) : Value :=
  .document (Document.single "$literal" v)

/-- A constant as a value. -/
def renderLiteral : Value → Value
  | .string s => if startsWithDollar s then markLiteral (.string s) else .string s
  | v => v

end Expression

mutual

/-- The value that a database is given for an expression. -/
def Expression.render : Expression → Except Error Value
  | .literal v => .ok (Expression.renderLiteral v)
  | .path name => .ok (.string ("$" ++ name))
  | .operator name argument => do
    return .document (Document.single name (← argument.render))
  | .object entries => do return .document (← renderExpressionEntries [] entries)
  | .array items => do return .array (← renderExpressions items)
  | .invalid reason => .error (.invalidOperand reason)

/-- The values of some expressions. -/
def renderExpressions : List Expression → Except Error (List Value)
  | [] => .ok []
  | e :: es => do
    let v ← e.render
    return v :: (← renderExpressions es)

/-- Puts the values of some entries into a document, one after the other. -/
def renderExpressionEntries (d : Document) : List (String × Expression) → Except Error Document
  | [] => .ok d
  | (k, e) :: es => do
    let v ← e.render
    renderExpressionEntries (d.insert k v) es

end

end DocumentDb
