import DocumentDb.Value

/-!
# Writes

A write inserts, replaces or deletes the document with a given identifier. What some writes did is
summed up in counts, which add up field by field.

**Identifiers come first** (`Document.withId`). A document is stored under the identifier that the
write gives. If it does not carry that identifier yet, its own one is dropped and the given one is
put in front.
-/

namespace DocumentDb

/-- One write. -/
inductive Write where
  /-- Adds a document whose identifier must be free. -/
  | insert (id : String) (document : Document)
  /-- Replaces the document with the identifier; without one, adds it if `upsert` is set. -/
  | replace (id : String) (document : Document) (upsert : Bool)
  /-- Removes the document with the identifier, if there is one. -/
  | delete (id : String)
deriving Inhabited

/-- The identifier that a write is about. -/
def Write.id : Write → String
  | insert id _ | replace id _ _ | delete id => id

/-- How many documents some writes have inserted, found, changed, inserted for lack of one to
replace, and deleted. -/
structure WriteSummary where
  inserted : Nat := 0
  matched : Nat := 0
  modified : Nat := 0
  upserted : Nat := 0
  deleted : Nat := 0
deriving DecidableEq, Inhabited

namespace WriteSummary

/-- The counts of two summaries together. -/
def add (s t : WriteSummary) : WriteSummary where
  inserted := s.inserted + t.inserted
  matched := s.matched + t.matched
  modified := s.modified + t.modified
  upserted := s.upserted + t.upserted
  deleted := s.deleted + t.deleted

instance : Add WriteSummary := ⟨add⟩

/-- The summary of no write. -/
def none : WriteSummary := {}

end WriteSummary

/-- The document under the given identifier, which stands in front unless it is there already. -/
def Document.withId (id : String) (d : Document) : Document :=
  if d.id? = some id then d else (idKey, .string id) :: d.erase idKey

@[simp] theorem Document.id?_withId (id : String) (d : Document) :
    (d.withId id).id? = some id := by
  unfold withId
  split
  · assumption
  · simp [id?, Assoc.get?, Value.text?]

end DocumentDb
