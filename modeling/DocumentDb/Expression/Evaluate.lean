import DocumentDb.Expression
import DocumentDb.Expression.Operator
import DocumentDb.Value.Path

/-!
# Evaluating expressions

`Expression.evaluate` gives the value of an expression on a document, or nothing where a path
leads nowhere.

**Missing values.** An entry of a document expression whose value is missing is left out; a
missing item of an array, and a missing argument, becomes null.
-/

namespace DocumentDb

mutual

/-- The value of an expression on a document. -/
def Expression.evaluate (d : Document) : Expression → Except Error (Option Value)
  | .literal v => .ok (some v)
  | .path name => .ok (d.lookup name)
  | .operator name argument => do
    if name = "$literal" then
      return some ((← argument.evaluate d).getD .null)
    else
      let args ← match argument with
        | .array items => evaluateItems d items
        | single => do
          let v ← single.evaluate d
          pure [v.getD .null]
      Operator.apply name args
  | .object entries => do return some (.document (← evaluateEntries d [] entries))
  | .array items => do return some (.array (← evaluateItems d items))
  | .invalid reason => .error (.invalidOperand reason)

/-- The values of some expressions, a missing one being null. -/
def evaluateItems (d : Document) : List Expression → Except Error (List Value)
  | [] => .ok []
  | e :: es => do
    let v ← e.evaluate d
    return v.getD .null :: (← evaluateItems d es)

/-- Puts the values of some entries into a document, leaving out the missing ones. -/
def evaluateEntries (d : Document) (into : Document) :
    List (String × Expression) → Except Error Document
  | [] => .ok into
  | (k, e) :: es => do
    match ← e.evaluate d with
    | some v => evaluateEntries d (into.insert k v) es
    | none => evaluateEntries d into es

end

/-- The value of an expression on a document, or null where it is missing. -/
def Expression.evaluateOrNull (d : Document) (e : Expression) : Except Error Value := do
  return (← e.evaluate d).getD .null

end DocumentDb
