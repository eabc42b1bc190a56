import DocumentDb.Error

/-!
# Identifiers

An identifier is a text that is not empty, marked with the name of the collection that it belongs
to, so that identifiers of different records are not mixed up. Identifiers are compared as texts.
-/

namespace DocumentDb

/-- An identifier of records in a collection. -/
structure Id (collection : String) where
  value : String
  value_ne_empty : value ≠ ""
deriving DecidableEq

namespace Id

variable {collection : String}

/-- The error for a text that is no identifier. -/
def emptyError : Error :=
  .invalidArgument "identifier must not be empty"

/-- The identifier with the given text. -/
def parse (raw : String) : Except Error (Id collection) :=
  if h : raw = "" then .error emptyError else .ok ⟨raw, h⟩

/-- The same text as an identifier in another collection. -/
def cast (other : String) (i : Id collection) : Id other :=
  ⟨i.value, i.value_ne_empty⟩

/-- Compares two identifiers by their texts. -/
def order (i j : Id collection) : Ordering :=
  compare i.value j.value

theorem parse_value (i : Id collection) : parse i.value = .ok i := by
  simp [parse, i.value_ne_empty]

end Id

end DocumentDb
