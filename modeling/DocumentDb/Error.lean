/-!
# Errors

Everything that an operation on a store can fail with. An error says what kind of trouble there
was and carries what a caller needs to act on it; `message` gives its wording.

Errors of the database itself are `native` and keep the code by which the database names them.
-/

namespace DocumentDb

/-- The reasons for which an operation fails. -/
inductive Error where
  /-- A value has no stored form, or a stored form no value. -/
  | serialization (detail : String)
  /-- A store could not be set up. -/
  | initialization (detail : String)
  /-- The identifier is taken. -/
  | alreadyExists (id collection : String)
  /-- There is no document with the identifier. -/
  | notFound (id collection : String)
  | collectionNotFound (name : String)
  /-- A document has the wrong form. -/
  | invalidDocument (detail : String)
  /-- An argument lies outside its range. -/
  | invalidArgument (detail : String)
  /-- An operand could not be encoded or does not fit its operator. -/
  | invalidOperand (detail : String)
  /-- A document does not decode; the field is the one at fault, if it is known. -/
  | decode (field : Option String) (detail : String)
  /-- An error of the database, with its code if it has one. -/
  | native (code : Option Int) (detail : String)
  | backend (detail : String)
  | unknown (detail : String)
deriving DecidableEq, Inhabited

namespace Error

/-- The wording of an error. -/
def message : Error → String
  | serialization detail => "Serialization error: " ++ detail
  | initialization detail => "Initialization error: " ++ detail
  | alreadyExists id collection =>
    "Document " ++ id ++ " already exists in collection " ++ collection
  | notFound id collection => "Document not found " ++ id ++ " in collection " ++ collection
  | collectionNotFound name => "Collection not found: " ++ name
  | invalidDocument detail => "Invalid document: " ++ detail
  | invalidArgument detail => "Invalid argument: " ++ detail
  | invalidOperand detail => "Invalid operand: " ++ detail
  | decode (some field) detail => "Decode error at field `" ++ field ++ "`: " ++ detail
  | decode none detail => "Decode error: " ++ detail
  | native (some code) detail => "Native error (" ++ toString code ++ "): " ++ detail
  | native none detail => "Native error: " ++ detail
  | backend detail => "Backend error: " ++ detail
  | unknown detail => "Unknown error: " ++ detail

/-- The name of the kind of an error, for reports. -/
def kindName : Error → String
  | serialization _ => "Serialization"
  | initialization _ => "Initialization"
  | alreadyExists .. => "DocumentAlreadyExists"
  | notFound .. => "DocumentNotFound"
  | collectionNotFound _ => "CollectionNotFound"
  | invalidDocument _ => "InvalidDocument"
  | invalidArgument _ => "InvalidArgument"
  | invalidOperand _ => "InvalidOperand"
  | decode .. => "Decode"
  | native .. => "Native"
  | backend _ => "Backend"
  | unknown _ => "Unknown"

/-- The code of an error of the database. -/
def nativeCode : Error → Option Int
  | native code _ => code
  | _ => none

/-- The field that did not decode. -/
def decodeField : Error → Option String
  | decode field _ => field
  | _ => none

end Error

end DocumentDb
