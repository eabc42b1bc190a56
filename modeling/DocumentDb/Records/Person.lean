import DocumentDb.Codec.Converter
import DocumentDb.Text.Split

/-!
# People

The record that typed collections are tried with: an identifier, a name, an age, and tags, which may
be missing from a document.

Besides the converter that comes with the type there are four given by hand: one that puts and reads
the same fields one by one, one that keeps an older form of documents, with the tags in one string,
one that leaves the identifier out, and one that refuses a certain name.
-/

namespace DocumentDb.Records

/-- A person. -/
structure Person where
  id : Id "people"
  name : String
  age : Int32
  tags : List String
deriving DecidableEq

namespace Person

instance : Record Person where
  collection := "people"
  id := Person.id

/-- The fields of a person as they are stored. -/
def fields : RecordDecoder Person :=
  RecordDecoder.pure Person.mk
    |>.field (.required idKey)
    |>.field (.required "name")
    |>.field (.required "age")
    |>.field (.withDefault "tags" [])

instance : Decode Person := ⟨fields.toDecoder "Person"⟩

/-- The document of a person. -/
def document (p : Person) : Document :=
  [(idKey, .string p.id.value), ("name", .string p.name), ("age", .int32 p.age),
    ("tags", .array (p.tags.map .string))]

instance : Encode Person := ⟨fun p => .ok (.document p.document)⟩

/-- The converter that comes with the type. -/
def converter : Converter Person :=
  .derived Person

/-! ## Converters by hand -/

/-- The converter that puts and reads the fields one by one. -/
def fieldwiseConverter : Converter Person where
  toDocument p := do
    let tags ← encode p.tags
    return [(idKey, .string p.id.value), ("name", .string p.name), ("age", .int32 p.age),
      ("tags", tags)]
  ofDocument d := do
    let id ← requiredField d idKey
    let name ← requiredField d "name"
    let age ← requiredField d "age"
    let tags ← optionalField d "tags"
    return ⟨id, name, age, tags.getD []⟩

/-- The tags that a string joins. -/
def splitTags (joined : Option String) : List String :=
  match joined with
  | none => []
  | some s => if s = "" then [] else Text.splitText ',' s

/-- The converter for the older form of documents. -/
def legacyConverter : Converter Person where
  toDocument p := .ok
    [(idKey, .string p.id.value), ("full_name", .string p.name), ("age", .int32 p.age),
      ("tags", .string (String.intercalate "," p.tags))]
  ofDocument d := do
    let tags ← optionalField d "tags"
    let id ← requiredField d idKey
    let name ← requiredField d "full_name"
    let age ← requiredField d "age"
    return ⟨id, name, age, splitTags tags⟩

/-- The converter that leaves the identifier out. -/
def converterWithoutId : Converter Person :=
  { converter with toDocument := fun p => return (← converter.toDocument p).erase idKey }

/-- The converter that refuses a name. -/
def pickyConverter : Converter Person :=
  { converter with
    toDocument := fun p =>
      if p.name = "bad" then .error (.invalidDocument "bad person") else converter.toDocument p }

end Person

end DocumentDb.Records
