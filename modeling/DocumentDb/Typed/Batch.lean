import DocumentDb.Codec.Converter

/-!
# Batches

A batch is a list of writes of records that have not been made yet. Adding a write gives a new
batch and leaves the old one as it was, so that batches can branch.
-/

namespace DocumentDb

/-- One write of a record. -/
inductive BatchWrite (α : Type) [Record α] where
  | insert (a : α)
  /-- Replaces the record, if it is there. -/
  | update (a : α)
  /-- Replaces the record, or adds it. -/
  | upsert (a : α)
  | delete (id : RecordId α)

/-- Writes of records, in order. -/
structure Batch (α : Type) [Record α] where
  writes : List (BatchWrite α)

namespace Batch

variable {α : Type} [Record α]

/-- The batch without writes. -/
def empty : Batch α := ⟨[]⟩

/-- Adds a write. -/
def push (b : Batch α) (w : BatchWrite α) : Batch α :=
  ⟨b.writes ++ [w]⟩

def insert (b : Batch α) (a : α) : Batch α :=
  b.push (.insert a)

def update (b : Batch α) (a : α) : Batch α :=
  b.push (.update a)

def upsert (b : Batch α) (a : α) : Batch α :=
  b.push (.upsert a)

def delete (b : Batch α) (id : RecordId α) : Batch α :=
  b.push (.delete id)

/-- Adds an insert for each of some records. -/
def insertAll (b : Batch α) (as : List α) : Batch α :=
  as.foldl insert b

def length (b : Batch α) : Nat :=
  b.writes.length

def isEmpty (b : Batch α) : Bool :=
  b.writes.isEmpty

end Batch

end DocumentDb
