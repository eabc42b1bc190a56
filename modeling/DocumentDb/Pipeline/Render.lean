import DocumentDb.Expression.Render
import DocumentDb.Filter.Render
import DocumentDb.Pipeline
import DocumentDb.Value.Json

/-!
# Pipelines as documents and as text

Each stage is written as a document with one entry, named after the stage, and a pipeline as the
text with which a database shell would run it.

**Projections** mark constant numbers and truth values, which would otherwise be read as inclusion
or exclusion. **Groups and added fields** hold computed fragments only, and a group value must not
take the name of the group key.
-/

namespace DocumentDb

/-- Refuses a group value with the name of the group key. -/
def requireGroupNames (accumulators : List Fragment) : Except Error Unit :=
  if accumulators.any (·.name == idKey) then .error OperandFault.groupKeyTaken.error else .ok ()

namespace FragmentValue

/-- Whether a constant would be read as inclusion or exclusion in a projection. -/
def readsAsFlag : Value → Bool
  | .bool _ | .int32 _ | .int64 _ | .double _ => true
  | _ => false

/-- The value of a fragment in a projection. -/
def renderProjected : FragmentValue → Except Error Value
  | .kept => .ok (.int32 1)
  | .dropped => .ok (.int32 0)
  | .computed (.literal v) =>
    if readsAsFlag v then .ok (Expression.markLiteral v) else (Expression.literal v).render
  | .computed e => e.render

end FragmentValue

/-- The entries of a projection. -/
def renderProjection (into : Document) : List Fragment → Except Error Document
  | [] => .ok into
  | f :: fs => do
    let v ← f.value.renderProjected
    renderProjection (into.insert f.name v) fs

/-- The entries of a stage that takes computed fragments only. -/
def renderComputed (stage : String) (into : Document) : List Fragment → Except Error Document
  | [] => .ok into
  | f :: fs =>
    match f.value with
    | .computed e => do
      let v ← e.render
      renderComputed stage (into.insert f.name v) fs
    | _ => .error (OperandFault.notComputed f.name stage).error

/-- A number of documents as a value. -/
def renderCount (n : Nat) : Except Error Value :=
  if n < Nat.pow 2 63 then .ok (.int64 (Int64.ofNat n))
  else .error (.invalidArgument (toString n ++ " is out of range"))

/-- The entries of a sort. -/
def renderSort (keys : List SortKey) : Document :=
  keys.foldl (fun d k => d.insert k.field (.int32 k.direction)) []

namespace Stage

/-- The value of a stage in its document. -/
def renderBody : Stage → Except Error Value
  | filter f => do return .document (← f.render)
  | project fs => do return .document (← renderProjection [] fs)
  | group id accumulators => do
    requireGroupNames accumulators
    let key ← id.render
    return .document (← renderComputed "$group" (Document.single idKey key) accumulators)
  | sort keys => .ok (.document (renderSort keys))
  | skip n => renderCount n
  | limit n => renderCount n
  | addFields fs => do return .document (← renderComputed "$addFields" [] fs)
  | sample size => do return .document (Document.single "size" (← renderCount size))
  | unwind field => .ok (.string ("$" ++ field))
  | count field => .ok (.string field)

/-- The document of a stage. -/
def render (s : Stage) : Except Error Document := do
  return Document.single s.operator (← s.renderBody)

end Stage

/-- The text with which a database shell runs some stages on a collection. -/
def queryText (collection : String) (stages : List Document) (s : Spacing) : String :=
  "db." ++ collection ++ ".aggregate(" ++ s.bracketed (stages.map (Document.json s)) ++ ")"

namespace Pipeline

/-- The documents of the stages. -/
def render (p : Pipeline) : Except Error (List Document) :=
  p.stages.mapM Stage.render

/-- The text with which a database shell runs the pipeline on a collection. -/
def toQuery (p : Pipeline) (collection : String) (s : Spacing) : Except Error String := do
  return queryText collection (← p.render) s

end Pipeline

end DocumentDb
