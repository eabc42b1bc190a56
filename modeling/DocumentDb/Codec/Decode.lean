import DocumentDb.Binary64.Text
import DocumentDb.Codec.Extended
import DocumentDb.Id
import DocumentDb.Text.Quoted
import DocumentDb.Value.Display

/-!
# Decoding values

How values of Lean types are read from stored ones. A decoder takes a value and gives a result, or
a failure that says what is wrong and where: its path names the keys, places and variants that
lead to the value at fault.

**Records** (`RecordDecoder`). The entries of a document are decoded in their order, and the first
that fails is reported; unknown keys are passed over. Only then the fields that are missing are
looked for, in the order in which the record declares them. An array is read as a record too,
field by field.

**The field at fault.** An error names the path of the failure. Where a key is missing the path
ends at the document around it, so the name is taken from the wording of the failure and put
behind the path.
-/

namespace DocumentDb

/-! ## Failures -/

/-- What is wrong with a value that does not decode. -/
inductive DecodeFault where
  | wrongKind (got : Value) (wanted : String)
  | outOfRange (n : Int) (wanted : String)
  | missingField (name : String)
  | unknownVariant (name : String) (variants : List String)
  /-- A document without a key, where the key names a variant. -/
  | noVariant
  /-- A document with a further key, where the only key names a variant. -/
  | extraKey (key : String)
  /-- A variant without the content that it needs. -/
  | noContent
  | tooShort (length : Nat) (wanted : String)
  | custom (reason : String)

/-- What messages call a value that was found in the wrong place. -/
def Value.found : Value → String
  | .int32 n => "integer `" ++ toString n.toInt ++ "`"
  | .int64 n => "integer `" ++ toString n.toInt ++ "`"
  | .double x => "floating point `" ++ x.text .withFraction ++ "`"
  | .string s => "string " ++ Text.plainQuoted s
  | .bool b => "boolean `" ++ (if b then "true" else "false") ++ "`"
  | .null => "unit value"
  | .array _ => "sequence"
  | _ => "map"

namespace DecodeFault

/-- What a fault says of the value. -/
def detail : DecodeFault → String
  | wrongKind got wanted => "invalid type: " ++ got.found ++ ", expected " ++ wanted
  | outOfRange n wanted => "invalid value: integer `" ++ toString n ++ "`, expected " ++ wanted
  | missingField name => "missing field `" ++ name ++ "`"
  | unknownVariant name variants =>
    "unknown variant `" ++ name ++ "`, expected one of "
      ++ String.intercalate ", " (variants.map fun v => "`" ++ v ++ "`")
  | noVariant => "invalid value: empty document, expected variant name"
  | extraKey key =>
    "invalid value: map, expected expected map with a single key, got extra key \"" ++ key
      ++ "\""
  | noContent => ""
  | tooShort length wanted => "invalid length " ++ toString length ++ ", expected " ++ wanted
  | custom reason => reason

/-- The wording of a fault. -/
def wording : DecodeFault → String
  | noContent => "BSON error. Kind: The end of the BSON input was reached too soon."
  | f => "BSON error. Kind: A deserialization-related error occurred. Message: " ++ f.detail ++ "."

end DecodeFault

/-- A fault and the way to the value that has it, from the outside in. -/
structure DecodeFailure where
  path : List String
  fault : DecodeFault

/-- The text after the first place at which `part` occurs, with the text before it. -/
def splitOnce (part : List Char) : List Char → Option (List Char × List Char)
  | [] => if part.isEmpty then some ([], []) else none
  | c :: cs =>
    if part.isPrefixOf (c :: cs) then some ([], (c :: cs).drop part.length)
    else (splitOnce part cs).map fun r => (c :: r.1, r.2)

/-- The name of the missing field of which a message speaks. -/
def missingFieldOf? (message : String) : Option String := do
  let (_, rest) ← splitOnce "missing field `".toList message.toList
  let (name, _) ← splitOnce ['`'] rest
  return String.ofList name

/-- The error for a failure at a path: the field is the path with the name of the missing field
behind it, if the message speaks of one. -/
def decodeErrorAt (path message : String) : Error :=
  let field :=
    match missingFieldOf? message with
    | none => if path = "" then none else some path
    | some name => some (if path = "" then name else path ++ "." ++ name)
  .decode field message

/-- The error that a failure becomes. -/
def DecodeFailure.error (f : DecodeFailure) : Error :=
  decodeErrorAt (String.intercalate "." f.path) f.fault.wording

/-! ## Decoders -/

/-- A reading of values. -/
abbrev Decoder (α : Type) := Value → Except DecodeFailure α

/-- A failure at the value itself. -/
def failHere {α : Type} (f : DecodeFault) : Except DecodeFailure α :=
  .error ⟨[], f⟩

/-- The failures of a part of a value, seen from the whole. -/
def within {α : Type} (segment : String) : Except DecodeFailure α → Except DecodeFailure α
  | .ok a => .ok a
  | .error f => .error ⟨segment :: f.path, f.fault⟩

/-- A type whose values can be read from stored ones. -/
class Decode (α : Type) where
  decoder : Decoder α

export Decode (decoder)

/-- Reads an integer of either width that lies between the bounds. -/
def decodeInteger (wanted : String) (low high : Int) : Decoder Int
  | .int32 n =>
    if low ≤ n.toInt ∧ n.toInt ≤ high then .ok n.toInt else failHere (.outOfRange n.toInt wanted)
  | .int64 n =>
    if low ≤ n.toInt ∧ n.toInt ≤ high then .ok n.toInt else failHere (.outOfRange n.toInt wanted)
  | v => failHere (.wrongKind v wanted)

instance : Decode String :=
  ⟨fun
    | .string s => .ok s
    | v => failHere (.wrongKind v "a string")⟩

instance : Decode Bool :=
  ⟨fun
    | .bool b => .ok b
    | v => failHere (.wrongKind v "a boolean")⟩

instance : Decode Int32 :=
  ⟨fun v => Int32.ofInt <$> decodeInteger "i32" Int32.minValue.toInt Int32.maxValue.toInt v⟩

instance : Decode Int64 :=
  ⟨fun v => Int64.ofInt <$> decodeInteger "i64" Int64.minValue.toInt Int64.maxValue.toInt v⟩

instance : Decode UInt8 :=
  ⟨fun v => (fun n => UInt8.ofNat n.toNat) <$> decodeInteger "u8" 0 (UInt8.size - 1) v⟩

instance : Decode UInt32 :=
  ⟨fun v => (fun n => UInt32.ofNat n.toNat) <$> decodeInteger "u32" 0 (UInt32.size - 1) v⟩

instance : Decode Binary64 :=
  ⟨fun
    | .double x => .ok x
    | .int32 n => .ok (Binary64.ofInt n.toInt)
    | .int64 n => .ok (Binary64.ofInt n.toInt)
    | v => failHere (.wrongKind v "f64")⟩

instance : Decode Value := ⟨.ok⟩

instance {collection : String} : Decode (Id collection) :=
  ⟨fun v => do
    let s : String ← decoder v
    match Id.parse s with
    | .ok i => .ok i
    | .error e => failHere (.custom e.message)⟩

instance {α : Type} [Decode α] : Decode (Option α) :=
  ⟨fun
    | .null => .ok none
    | v => some <$> decoder v⟩

/-- Reads items one after the other, the first of them standing at the given place. -/
def decodeItems {α : Type} [Decode α] (place : Nat) : List Value → Except DecodeFailure (List α)
  | [] => .ok []
  | v :: vs => do
    let a ← within (toString place) (decoder v)
    return a :: (← decodeItems (place + 1) vs)

instance {α : Type} [Decode α] : Decode (List α) :=
  ⟨fun
    | .array items => decodeItems 0 items
    | v => failHere (.wrongKind v "a sequence")⟩

/-- Reads entries one after the other. -/
def decodeEntries {α : Type} [Decode α] : Document → Except DecodeFailure (Assoc α)
  | [] => .ok []
  | (k, v) :: es => do
    let a ← within k (decoder v)
    return (k, a) :: (← decodeEntries es)

instance {α : Type} [Decode α] : Decode (Assoc α) :=
  ⟨fun v =>
    match v.entries? with
    | some es => decodeEntries es
    | none => failHere (.wrongKind v "a map")⟩

instance : Decode Document :=
  ⟨fun
    | .document es => .ok es
    | v =>
      failHere <| .wrongKind (.document [])
        ("expected document, found extended JSON data type: " ++ v.display)⟩

/-! ## Records -/

/-- What a field becomes when its key is missing. -/
inductive Absence (α : Type) where
  /-- Nothing: the record does not decode. -/
  | refused
  /-- The given value, but only in a document. -/
  | accepted (a : α)
  /-- The given value. -/
  | defaulted (a : α)

/-- One field of a record. -/
structure FieldDecoder (α : Type) where
  key : String
  read : Decoder α
  absence : Absence α

namespace FieldDecoder

variable {α : Type}

/-- A field that must be there. -/
def required [Decode α] (key : String) : FieldDecoder α :=
  ⟨key, decoder, .refused⟩

/-- A field that may be missing. -/
def optional [Decode α] (key : String) : FieldDecoder (Option α) :=
  ⟨key, decoder, .accepted none⟩

/-- A field with a value for the case that it is missing. -/
def withDefault [Decode α] (key : String) (a : α) : FieldDecoder α :=
  ⟨key, decoder, .defaulted a⟩

/-- Reads the field from a document. -/
def ofDocument (f : FieldDecoder α) (d : Document) : Except DecodeFailure α :=
  match d.get? f.key with
  | some v => within f.key (f.read v)
  | none =>
    match f.absence with
    | .refused => failHere (.missingField f.key)
    | .accepted a | .defaulted a => .ok a

end FieldDecoder

/-- A reading of records: of the entries of a document one by one, of the fields of a document in
the order of declaration, and of the items of an array. -/
structure RecordDecoder (α : Type) where
  /-- The number of fields. -/
  size : Nat
  /-- Checks the value of an entry. -/
  check : String → Value → Except DecodeFailure Unit
  /-- Reads the record from the fields of a document. -/
  ofDocument : Document → Except DecodeFailure α
  /-- Reads the record from the first items of an array, and gives the rest of the items. The
  text says what was wanted if there are too few. -/
  ofItems : String → List Value → Except DecodeFailure (α × List Value)

namespace RecordDecoder

variable {α β : Type}

/-- A record without fields. -/
def pure (a : α) : RecordDecoder α where
  size := 0
  check _ _ := .ok ()
  ofDocument _ := .ok a
  ofItems _ vs := .ok (a, vs)

/-- A record with one more field. -/
def field (r : RecordDecoder (α → β)) (f : FieldDecoder α) : RecordDecoder β where
  size := r.size + 1
  check k v := if k = f.key then (fun _ => ()) <$> within k (f.read v) else r.check k v
  ofDocument d := do
    let g ← r.ofDocument d
    return g (← f.ofDocument d)
  ofItems wanted vs := do
    let (g, rest) ← r.ofItems wanted vs
    match rest with
    | v :: rest => do
      let a ← within (toString r.size) (f.read v)
      return (g a, rest)
    | [] =>
      match f.absence with
      | .defaulted a => return (g a, [])
      | _ => failHere (.tooShort r.size wanted)

/-- Checks the entries of a document in their order. -/
def checkEntries (r : RecordDecoder α) : Document → Except DecodeFailure Unit
  | [] => .ok ()
  | (k, v) :: es => do
    r.check k v
    checkEntries r es

/-- Reads a record from the entries of a document. -/
def ofEntries (r : RecordDecoder α) (es : Document) : Except DecodeFailure α := do
  r.checkEntries es
  r.ofDocument es

/-- Reads a record from the items of an array. The title is what messages call the record. -/
def ofArray (r : RecordDecoder α) (title : String) (items : List Value) :
    Except DecodeFailure α := do
  let wanted := title ++ " with " ++ toString r.size ++ " elements"
  return (← r.ofItems wanted items).1

/-- The decoder of a record of the given name. -/
def toDecoder (r : RecordDecoder α) (name : String) : Decoder α
  | .array items => r.ofArray ("struct " ++ name) items
  | v =>
    match v.entries? with
    | some es => r.ofEntries es
    | none => failHere (.wrongKind v ("struct " ++ name))

end RecordDecoder

/-! ## Single values and fields -/

/-- Reads a value that is no field of a document. -/
def decodeValue {α : Type} [Decode α] (v : Value) : Except Error α :=
  match decoder v with
  | .ok a => .ok a
  | .error f => .error (.serialization f.fault.wording)

/-- Reads a field that must be there and not be null. -/
def requiredField {α : Type} [Decode α] (d : Document) (field : String) : Except Error α :=
  match d.get? field with
  | none | some .null => .error (.decode (some field) "missing field")
  | some v =>
    match decoder v with
    | .ok a => .ok a
    | .error f => .error (.decode (some field) f.fault.wording)

/-- Reads a field that may be missing or null. -/
def optionalField {α : Type} [Decode α] (d : Document) (field : String) :
    Except Error (Option α) :=
  match d.get? field with
  | none | some .null => .ok none
  | some v =>
    match decoder v with
    | .ok a => .ok (some a)
    | .error f => .error (.decode (some field) f.fault.wording)

end DocumentDb
