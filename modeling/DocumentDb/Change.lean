import DocumentDb.Value

/-!
# Changes

A change tells what happened to a document of a collection, or that the collection was dropped. It
carries the document as it is afterwards, if there is one. The time of a change is left out.
-/

namespace DocumentDb

/-- What happened. -/
inductive ChangeKind where
  | insert
  | replace
  | delete
  | drop
deriving DecidableEq

/-- The name of what happened, for reports. -/
def ChangeKind.name : ChangeKind → String
  | insert => "Insert"
  | replace => "Replace"
  | delete => "Delete"
  | drop => "Drop"

/-- What happened, given its name. -/
def ChangeKind.ofName? (name : String) : Option ChangeKind :=
  [insert, replace, delete, drop].find? (·.name == name)

/-- One observed change. -/
structure Change where
  collection : String
  kind : ChangeKind
  /-- The identifier of the document, unless the whole collection was dropped. -/
  id : Option String
  document : Option Document

namespace Change

/-- The change that leaves the given document, identified by its own identifier. -/
def ofDocument (collection : String) (kind : ChangeKind) (d : Option Document) : Change :=
  ⟨collection, kind, d.bind Document.id?, d⟩

/-- The same change of the document with the given identifier. -/
def withId (c : Change) (id : String) : Change :=
  { c with id := some id }

end Change

end DocumentDb
