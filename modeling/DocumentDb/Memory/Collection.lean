import DocumentDb.Change
import DocumentDb.Fault
import DocumentDb.Value.Order
import DocumentDb.Value.Path
import DocumentDb.Value.Same
import DocumentDb.Write

/-!
# Collections in memory

A collection is a list of documents, in the order of their insertion, and a list of indexes.
`Collection.apply` makes one write, and `Collection.run` makes several, up to the first that is
refused.

**Refusals.** An insert is refused if its identifier is taken. Any new content of a document is
refused if another document has a value that the order does not tell apart from its own at a
unique index; a missing value counts as null.

**Replacing** puts the new content in the place of the old one. It counts as a change only if the
two are not the same; it leaves the new content in either case.
-/

namespace DocumentDb.Memory

/-- An index on a field. -/
structure Index where
  field : String
  unique : Bool
deriving DecidableEq

/-- The value of a document at an index. -/
def Index.valueOf (i : Index) (d : Document) : Value :=
  d.lookupOrNull i.field

/-- The documents and indexes of a collection. -/
structure Collection where
  documents : List Document := []
  indexes : List Index := []
deriving Inhabited

/-- What a write has done to a collection. -/
structure Effect where
  collection : Collection
  summary : WriteSummary
  changes : List Change

namespace Collection

/-- The place of the document with an identifier. -/
def position (c : Collection) (id : String) : Option Nat :=
  c.documents.findIdx? (·.id? == some id)

/-- The document with an identifier. -/
def find? (c : Collection) (id : String) : Option Document :=
  c.documents.find? (·.id? == some id)

/-- Whether a document has the value of one of the others at an index. -/
def takenBy (others : List Document) (d : Document) (i : Index) : Bool :=
  others.any fun e => (i.valueOf e).alike (i.valueOf d)

/-- Refuses a document that shares a value of a unique index with one of the others. -/
def checkUnique (c : Collection) (name : String) (others : List Document) (d : Document) :
    Except Error Unit :=
  match c.indexes.find? (fun i => i.unique && takenBy others d i) with
  | some i => .error (DatabaseFault.duplicateKey name i.field (i.valueOf d)).error
  | none => .ok ()

/-! ## Single writes -/

/-- The collection with a document behind the others. -/
def push (c : Collection) (d : Document) : Collection :=
  { c with documents := c.documents ++ [d] }

/-- Adds a document under a free identifier. -/
def insert (c : Collection) (name id : String) (d : Document) : Except Error Effect :=
  if (c.position id).isSome then .error (.alreadyExists id name)
  else do
    let d := d.withId id
    c.checkUnique name c.documents d
    return ⟨c.push d, { inserted := 1 }, [.ofDocument name .insert (some d)]⟩

/-- Puts a document in the place of another one. -/
def overwrite (c : Collection) (name : String) (place : Nat) (d : Document) :
    Except Error Effect := do
  c.checkUnique name (c.documents.eraseIdx place) d
  let modified := !(c.documents.getD place []).same d
  return {
    collection := { c with documents := c.documents.set place d }
    summary := { matched := 1, modified := if modified then 1 else 0 }
    changes := if modified then [.ofDocument name .replace (some d)] else [] }

/-- Replaces the document with an identifier; without one, adds it if `upsert` is set. -/
def replace (c : Collection) (name id : String) (d : Document) (upsert : Bool) :
    Except Error Effect :=
  let d := d.withId id
  match c.position id with
  | some place => c.overwrite name place d
  | none =>
    if upsert then do
      c.checkUnique name c.documents d
      return ⟨c.push d, { upserted := 1 }, [.ofDocument name .insert (some d)]⟩
    else .ok ⟨c, .none, []⟩

/-- Removes the document with an identifier. -/
def delete (c : Collection) (name id : String) : Effect :=
  match c.position id with
  | some place =>
    { collection := { c with documents := c.documents.eraseIdx place }
      summary := { deleted := 1 }
      changes := [(Change.ofDocument name .delete none).withId id] }
  | none => ⟨c, .none, []⟩

/-- Makes one write. -/
def apply (c : Collection) (name : String) : Write → Except Error Effect
  | .insert id d => c.insert name id d
  | .replace id d upsert => c.replace name id d upsert
  | .delete id => .ok (c.delete name id)

/-! ## Several writes -/

/-- What several writes have done, and the error of the first one that was refused. -/
structure Run where
  collection : Collection
  summary : WriteSummary
  changes : List Change
  error : Option Error

/-- Makes some writes one after the other, up to the first that is refused. -/
def run (c : Collection) (name : String) : List Write → Run
  | [] => ⟨c, .none, [], none⟩
  | w :: ws =>
    match c.apply name w with
    | .error e => ⟨c, .none, [], some e⟩
    | .ok s =>
      let r := run s.collection name ws
      ⟨r.collection, s.summary + r.summary, s.changes ++ r.changes, r.error⟩

/-! ## Indexes -/

/-- The first value at an index that an earlier document has too. -/
def firstRepeated? (i : Index) (seen : List Document) : List Document → Option Value
  | [] => none
  | d :: ds =>
    if takenBy seen d i then some (i.valueOf d) else firstRepeated? i (seen ++ [d]) ds

/-- Puts an index in the place of the one on its field, or last. -/
def placeIndex (i : Index) : List Index → List Index
  | [] => [i]
  | j :: js => if j.field = i.field then i :: js else j :: placeIndex i js

/-- Declares an index. A unique one is refused if two documents share a value. -/
def addIndex (c : Collection) (name : String) (i : Index) : Except Error Collection :=
  match if i.unique then firstRepeated? i [] c.documents else none with
  | some v => .error (DatabaseFault.duplicateKey name i.field v).error
  | none => .ok { c with indexes := placeIndex i c.indexes }

/-- Removes the index on a field. -/
def dropIndex (c : Collection) (field : String) : Except Error Collection :=
  if c.indexes.any (·.field == field) then
    .ok { c with indexes := c.indexes.filter (·.field != field) }
  else .error (DatabaseFault.indexNotFound field).error

end Collection

end DocumentDb.Memory
