import DocumentDb.Typed.Collection

/-!
# Document stores

A backend with the defaults that its typed collections begin with.
-/

namespace DocumentDb

/-- A backend and how often samples are tried again on it. -/
structure DocumentStore (σ : Type) where
  backend : Backend σ
  sampleRetries : Nat := 3

namespace DocumentStore

variable {σ α : Type}

/-- The same store with another number of retries. -/
def withSampleRetries (s : DocumentStore σ) (retries : Nat) : DocumentStore σ :=
  { s with sampleRetries := retries }

/-- The collection of a type of records with a converter. -/
def collectionWith [Record α] (s : DocumentStore σ) (c : Converter α) : TypedCollection σ α where
  name := Record.collection α
  backend := s.backend
  converter := c
  sampleRetries := s.sampleRetries

/-- The collection of a type of records, which are encoded as the type says. -/
def collection (α : Type) [Record α] [Encode α] [Decode α] (s : DocumentStore σ) :
    TypedCollection σ α :=
  s.collectionWith (.derived α)

/-- The names of the collections. -/
def listCollections (s : DocumentStore σ) : Action σ (List String) :=
  s.backend.listCollections

end DocumentStore

end DocumentDb
