import DocumentDb.Failure
import DocumentDb.Field
import DocumentDb.Typed.Aggregation
import DocumentDb.Typed.Batch

/-!
# Typed collections

A collection of records of one type, on some backend and with some converter. Writes sort their
failures into kinds; reads give plain errors.

**Encoding comes first.** Every record of a write is encoded before the backend is asked for
anything, so a record that does not encode leaves everything as it was.

**Samples** can fail because too few distinct documents were drawn. Only this failure is tried
again, a bounded number of times.
-/

namespace DocumentDb

/-- A write of records, whose failures are sorted into kinds. -/
abbrev Outcome (σ α : Type) := ExceptT Failure (StateM σ) α

/-- An action whose failures are sorted into kinds. -/
def Action.classified {σ α : Type} (a : Action σ α) : Outcome σ α :=
  fun s =>
    let (r, s) := a s
    (DocumentDb.classified r, s)

/-- A collection of records of type `α`. -/
structure TypedCollection (σ α : Type) where
  name : String
  backend : Backend σ
  converter : Converter α
  /-- How often a sample is tried again if nothing else is said. -/
  sampleRetries : Nat

namespace TypedCollection

variable {σ α : Type} [Record α]

/-- The same collection with another converter. -/
def withConverter (c : TypedCollection σ α) (converter : Converter α) : TypedCollection σ α :=
  { c with converter := converter }

/-- The same collection with another number of retries. -/
def withSampleRetries (c : TypedCollection σ α) (retries : Nat) : TypedCollection σ α :=
  { c with sampleRetries := retries }

/-! ## Encoding -/

/-- The identifier of a record and its document, which begins with the identifier if the converter
leaves it out. -/
def encode (c : TypedCollection σ α) (a : α) : Except Error (String × Document) := do
  let id := (Record.id a).value
  let d ← c.converter.toDocument a
  return (id, if d.contains idKey then d else (idKey, .string id) :: d)

/-- The identifiers and documents of some records. -/
def encodeAll (c : TypedCollection σ α) (as : List α) : Except Error (List (String × Document)) :=
  as.mapM c.encode

/-- The write of documents that a write of records stands for. -/
def encodeWrite (c : TypedCollection σ α) : BatchWrite α → Except Error Write
  | .insert a => do
    let (id, d) ← c.encode a
    return .insert id d
  | .update a => do
    let (id, d) ← c.encode a
    return .replace id d false
  | .upsert a => do
    let (id, d) ← c.encode a
    return .replace id d true
  | .delete id => .ok (.delete id.value)

/-- The records of some documents. -/
def decodeAll (c : TypedCollection σ α) (docs : List Document) : Except Error (List α) :=
  docs.mapM c.converter.ofDocument

/-! ## Writes -/

/-- Adds records and gives them back. -/
def insertMany (c : TypedCollection σ α) (as : List α) : Outcome σ (List α) := do
  let docs ← MonadExcept.ofExcept (classified (c.encodeAll as))
  (c.backend.insert c.name docs).classified
  return as

/-- Adds a record and gives it back. -/
def insert (c : TypedCollection σ α) (a : α) : Outcome σ α := do
  let _ ← c.insertMany [a]
  return a

/-- Replaces records, and adds those that are not there if `upsert` is set. -/
def replaceMany (c : TypedCollection σ α) (as : List α) (upsert : Bool) :
    Outcome σ WriteSummary := do
  let docs ← MonadExcept.ofExcept (classified (c.encodeAll as))
  (c.backend.replace c.name docs upsert).classified

/-- Replaces records that are there. -/
def updateMany (c : TypedCollection σ α) (as : List α) : Outcome σ WriteSummary :=
  c.replaceMany as false

/-- Replaces records, and adds those that are not there. -/
def upsertMany (c : TypedCollection σ α) (as : List α) : Outcome σ WriteSummary :=
  c.replaceMany as true

/-- Replaces a record that must be there, and gives it back. -/
def update (c : TypedCollection σ α) (a : α) : Outcome σ α := do
  let summary ← c.updateMany [a]
  if summary.matched = 0 then
    throw (.classify (.notFound (Record.id a).value c.name))
  return a

/-- Replaces a record, or adds it, and gives it back. -/
def upsert (c : TypedCollection σ α) (a : α) : Outcome σ α := do
  let _ ← c.upsertMany [a]
  return a

/-- Makes the writes of a batch in order, up to the first that fails. -/
def execute (c : TypedCollection σ α) (b : Batch α) : Outcome σ WriteSummary := do
  let ws ← MonadExcept.ofExcept (classified (b.writes.mapM c.encodeWrite))
  (c.backend.bulkWrite c.name ws).classified

/-- Removes records by their identifiers and counts them. -/
def deleteMany (c : TypedCollection σ α) (ids : List (RecordId α)) : Outcome σ Nat :=
  (c.backend.delete c.name (ids.map Id.value)).classified

/-- Removes a record by its identifier and tells whether it was there. -/
def delete (c : TypedCollection σ α) (id : RecordId α) : Outcome σ Bool := do
  return (← c.deleteMany [id]) > 0

/-! ## Reads -/

/-- The records with some identifiers, in the order of the identifiers. -/
def byIds (c : TypedCollection σ α) (ids : List (RecordId α)) : Action σ (List α) := do
  MonadExcept.ofExcept (c.decodeAll (← c.backend.get c.name (ids.map Id.value)))

/-- The record with an identifier. -/
def get (c : TypedCollection σ α) (id : RecordId α) : Action σ (Option α) := do
  return (← c.byIds [id]).head?

/-- The records that an optional filter means. -/
def select (c : TypedCollection σ α) (filter : Option Filter) : Action σ (List α) := do
  MonadExcept.ofExcept (c.decodeAll (← c.backend.find c.name filter))

/-- All records. -/
def all (c : TypedCollection σ α) : Action σ (List α) :=
  c.select none

/-- The records that a filter means. -/
def find (c : TypedCollection σ α) (filter : Filter) : Action σ (List α) :=
  c.select (some filter)

/-- The number of all records. -/
def count (c : TypedCollection σ α) : Action σ Nat :=
  c.backend.count c.name none

/-- The number of the records that a filter means. -/
def countWhere (c : TypedCollection σ α) (filter : Filter) : Action σ Nat :=
  c.backend.count c.name (some filter)

/-! ## Aggregations and samples -/

/-- The aggregation over the collection with nothing in its pipeline. -/
def aggregate (c : TypedCollection σ α) : Aggregation σ α where
  collection := c.name
  backend := c.backend
  converter := c.converter

/-- Draws some records once. -/
def sampleOnce (c : TypedCollection σ α) (size : Nat) : Outcome σ (List α) :=
  (c.aggregate.withPipeline (Pipeline.empty.sample size)).toList.classified

/-- Draws some records. If too few distinct documents were drawn, it is tried again as often as
given. -/
def sample (c : TypedCollection σ α) (size : Nat) : Nat → Outcome σ (List α)
  | 0 => c.sampleOnce size
  | retries + 1 =>
    tryCatch (c.sampleOnce size) fun
      | .sampleNoNonDuplicate _ => c.sample size retries
      | failure => throw failure

/-- Draws some records, with the number of retries of the collection. -/
def sampleDefault (c : TypedCollection σ α) (size : Nat) : Outcome σ (List α) :=
  c.sample size c.sampleRetries

/-! ## The collection as a whole -/

/-- Declares an index on a field. -/
def addIndex {β : Type} (c : TypedCollection σ α) (f : Field β) (unique : Bool) : Action σ Unit :=
  c.backend.addIndex c.name f.name unique

/-- Removes the collection with all records. -/
def drop (c : TypedCollection σ α) : Action σ Unit :=
  c.backend.dropCollection c.name

end TypedCollection

end DocumentDb
