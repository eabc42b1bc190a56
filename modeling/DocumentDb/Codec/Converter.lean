import DocumentDb.Codec.Decode
import DocumentDb.Codec.Encode

/-!
# Converters

A converter maps values of a type to whole documents and back. One can be derived from how the
type is encoded and decoded, or given by hand.

A **record** is a value with an identifier that lives in a collection of its own.
-/

namespace DocumentDb

/-- A mapping between values and documents. -/
structure Converter (α : Type) where
  toDocument : α → Except Error Document
  ofDocument : Document → Except Error α

/-- Reads a value from a whole document. -/
def decodeDocument {α : Type} [Decode α] (d : Document) : Except Error α :=
  match decoder (.document d) with
  | .ok a => .ok a
  | .error f => .error f.error

/-- The converter that encodes and decodes as the type says. -/
def Converter.derived (α : Type) [Encode α] [Decode α] : Converter α :=
  ⟨encodeDocument, decodeDocument⟩

/-- A type of values with an identifier, kept in one collection. -/
class Record (α : Type) where
  collection : String
  id : α → Id collection

/-- The identifiers of records of type `α`. -/
abbrev RecordId (α : Type) [Record α] :=
  Id (Record.collection α)

end DocumentDb
