/-!
# Declarations of records

What the generator of field accessors is given: a type with its fields and their attributes. Only
the attributes of the serialization framework count, `serde`; their items say under which names the
fields are stored and which fields are left out.
-/

namespace DocumentDb.Accessors

/-- One item of an attribute. -/
inductive Item where
  /-- A path alone. -/
  | bare (path : String)
  /-- A path with a text. -/
  | text (path value : String)
  /-- A path with an expression that is no text. -/
  | expression (path : String)
  /-- A path with further items in parentheses. -/
  | list (path : String) (items : List Item)

/-- The path of an item. -/
def Item.path : Item → String
  | bare p | text p _ | expression p | list p _ => p

/-- An attribute of a type or of a field. -/
structure Attribute where
  name : String
  items : List Item

/-- A field of a type. -/
structure FieldDeclaration where
  name : String
  type : String
  attributes : List Attribute

/-- What kind of type is declared. -/
inductive TypeKind where
  | record
  | tuple
  | unit
  | enumeration
  | union
deriving DecidableEq

/-- A declared type. -/
structure Declaration where
  name : String
  kind : TypeKind
  /-- The list of parameters in angle brackets, if there is one. -/
  parameters : Option String
  attributes : List Attribute
  fields : List FieldDeclaration

/-- Whether a type has parameters; an empty list of them does not count. -/
def Declaration.isGeneric (d : Declaration) : Bool :=
  match d.parameters with
  | some ps => ps.toList.any fun c => c != '<' && c != '>' && c != ' '
  | none => false

/-- The name of a field without the mark by which a keyword becomes a name. -/
def FieldDeclaration.plainName (f : FieldDeclaration) : String :=
  match f.name.toList with
  | 'r' :: '#' :: cs => String.ofList cs
  | _ => f.name

/-- The attributes that say how a type is stored. -/
def storageAttributes (as : List Attribute) : List Attribute :=
  as.filter (·.name == "serde")

/-! ## Faults -/

/-- What can be wrong with a declaration. -/
inductive DeclarationFault where
  | generic
  | noRecord
  | unnamedFields
  | unknownRule (name : String)
  | textExpected
  | equalsExpected
  | commaExpected
  /-- The flag tells whether nothing follows. -/
  | parenthesesExpected (atEnd : Bool)
  | itemExpected
deriving DecidableEq

/-- The wording of a fault. -/
def DeclarationFault.message : DeclarationFault → String
  | generic => "Fields derive does not support generic structs"
  | noRecord => "Fields derive only supports structs"
  | unnamedFields => "Fields derive only supports structs with named fields"
  | unknownRule name => "unknown rename_all rule `" ++ name ++ "`"
  | textExpected => "expected string literal"
  | equalsExpected => "expected `=`"
  | commaExpected => "expected `,`"
  | parenthesesExpected true => "unexpected end of input, expected parentheses"
  | parenthesesExpected false => "expected parentheses"
  | itemExpected => "unexpected end of input, expected nested attribute"

end DocumentDb.Accessors
