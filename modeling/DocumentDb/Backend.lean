import DocumentDb.Pipeline
import DocumentDb.Write

/-!
# Backends

A backend is what stores documents: a table of operations on some state. The operations take names
of collections and plain documents; typed collections are built on top of them.

**Actions.** An operation gives a result or fails, and the state afterwards is there in either case,
since an operation that fails may have had effects before.

**Cursors.** An aggregation gives its documents one by one. An error can come in the place of a
document, and documents can come after it.
-/

namespace DocumentDb

/-- A computation on states of type `σ` that gives a result or fails. -/
abbrev Action (σ α : Type) := ExceptT Error (StateM σ) α

/-- What an aggregation gives, one by one. -/
abbrev Cursor := List (Except Error Document)

/-- All results, or the first error. -/
def collect {ε α : Type} : List (Except ε α) → Except ε (List α)
  | [] => .ok []
  | r :: rs => do
    let a ← r
    return a :: (← collect rs)

/-- The operations of a database with states of type `σ`. -/
structure Backend (σ : Type) where
  /-- Adds documents under their identifiers. -/
  insert : String → List (String × Document) → Action σ Unit
  /-- Replaces documents by their identifiers; adds those that are not there if the flag is set. -/
  replace : String → List (String × Document) → Bool → Action σ WriteSummary
  /-- Removes documents by their identifiers and counts them. -/
  delete : String → List String → Action σ Nat
  /-- The documents with some identifiers, in the order of the identifiers. -/
  get : String → List String → Action σ (List Document)
  /-- The documents that a filter means; all of them if there is none. -/
  find : String → Option Filter → Action σ (List Document)
  /-- The number of documents that a filter means. -/
  count : String → Option Filter → Action σ Nat
  /-- Runs a pipeline. -/
  aggregate : String → Pipeline → Action σ Cursor
  /-- Makes writes in order, up to the first that fails. -/
  bulkWrite : String → List Write → Action σ WriteSummary
  createCollection : String → Action σ Unit
  dropCollection : String → Action σ Unit
  listCollections : Action σ (List String)
  /-- Declares an index on a field, unique if the flag is set. -/
  addIndex : String → String → Bool → Action σ Unit
  dropIndex : String → String → Action σ Unit

end DocumentDb
