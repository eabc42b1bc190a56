import DocumentDb.Value.Same

/-!
# Filters

A filter says which documents are meant. It compares fields with operands and combines such
comparisons by conjunction, disjunction and negation.

**Chains.** Adding a filter to a conjunction with `and` lengthens it, so `a.and b` followed by
`.and c` is one conjunction of three; `or` does the same for disjunctions. An operand that could
not be encoded stays in the filter as `invalid`, and shows when the filter is used.
-/

namespace DocumentDb

/-- How a field is compared with an operand. -/
inductive Comparison where
  | eq
  | ne
  | gt
  | gte
  | lt
  | lte
  | isIn
  | notIn
  | size
deriving DecidableEq

/-- The name of a comparison in a query document. -/
def Comparison.operator : Comparison → String
  | eq => "$eq"
  | ne => "$ne"
  | gt => "$gt"
  | gte => "$gte"
  | lt => "$lt"
  | lte => "$lte"
  | isIn => "$in"
  | notIn => "$nin"
  | size => "$size"

/-- The comparison with the given name in query documents. -/
def Comparison.ofOperator? (name : String) : Option Comparison :=
  [eq, ne, gt, gte, lt, lte, isIn, notIn, size].find? (·.operator == name)

/-- A condition on documents. -/
inductive Filter where
  /-- Every one of the filters holds. -/
  | all (filters : List Filter)
  /-- At least one of the filters holds. -/
  | any (filters : List Filter)
  /-- The filter does not hold. -/
  | not (filter : Filter)
  /-- The field is there, or is not there. -/
  | present (field : String) (expected : Bool)
  /-- The field compares with the operand as the operator says. -/
  | compare (field : String) (operator : Comparison) (operand : Value)
  /-- An operand could not be encoded. -/
  | invalid (reason : String)
deriving Inhabited

namespace Filter

/-- The conjunction of two filters. -/
def and : Filter → Filter → Filter
  | all fs, g => all (fs ++ [g])
  | f, g => all [f, g]

/-- The disjunction of two filters. -/
def or : Filter → Filter → Filter
  | any fs, g => any (fs ++ [g])
  | f, g => any [f, g]

/-- The negation of a filter. -/
def negate (f : Filter) : Filter :=
  not f

end Filter

mutual

/-- Whether two filters are built alike from the same operands. -/
def Filter.same : Filter → Filter → Bool
  | .all fs, .all gs => sameFilters fs gs
  | .any fs, .any gs => sameFilters fs gs
  | .not f, .not g => f.same g
  | .present f e, .present g e' => f == g && e == e'
  | .compare f op v, .compare g op' w => f == g && op == op' && v.same w
  | .invalid r, .invalid r' => r == r'
  | _, _ => false

/-- Whether two lists hold filters built alike. -/
def sameFilters : List Filter → List Filter → Bool
  | [], [] => true
  | f :: fs, g :: gs => f.same g && sameFilters fs gs
  | _, _ => false

end

end DocumentDb
