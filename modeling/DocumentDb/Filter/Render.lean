import DocumentDb.Fault
import DocumentDb.Filter

/-!
# Filters as query documents

`Filter.render` writes a filter as the document that a database is asked with. An equality is
the bare pair of field and operand; every other comparison nests its operator under the field.

**Refusals.** A filter has no query document if an operand in it could not be encoded, if it
combines nothing, or if an operand does not fit its operator: the set operators want an array and
`$size` a length.
-/

namespace DocumentDb

namespace Filter

/-- The query document of one comparison. -/
def renderComparison (field : String) (op : Comparison) (operand : Value) :
    Except Error Document :=
  let nested := Document.single field (.document (Document.single op.operator operand))
  match op with
  | .eq => .ok (Document.single field operand)
  | .isIn | .notIn =>
    if operand.items?.isSome then .ok nested
    else .error (OperandFault.arrayExpected op.operator field operand.kindName).error
  | .size =>
    if operand.length?.isSome then .ok nested
    else .error (OperandFault.lengthExpected field operand).error
  | _ => .ok nested

/-- Refuses a combination of nothing. -/
def requireOperands (operator : String) (filters : List Filter) : Except Error Unit :=
  if filters.isEmpty then .error (OperandFault.noOperands operator).error else .ok ()

end Filter

mutual

/-- The query document of a filter. -/
def Filter.render : Filter → Except Error Document
  | .all fs => do
    Filter.requireOperands "$and" fs
    return Document.single "$and" (.array (← renderFilters fs))
  | .any fs => do
    Filter.requireOperands "$or" fs
    return Document.single "$or" (.array (← renderFilters fs))
  | .not f => do
    return Document.single "$nor" (.array [.document (← f.render)])
  | .present field expected =>
    .ok (Document.single field (.document (Document.single "$exists" (.bool expected))))
  | .compare field op operand => Filter.renderComparison field op operand
  | .invalid reason => .error (.invalidOperand reason)

/-- The query documents of some filters. -/
def renderFilters : List Filter → Except Error (List Value)
  | [] => .ok []
  | f :: fs => do
    let d ← f.render
    return .document d :: (← renderFilters fs)

end

end DocumentDb
