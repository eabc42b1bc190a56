import DocumentDb.Codec.Converter

/-!
# Settings

A record with a field of every kind that converters know: truth values, numbers of several widths,
values that may be missing, a choice between variants, a map, and a list of records.

**Variants.** A variant without content is stored as its name. One with content is stored as a
document with one entry, the name and the content.
-/

namespace DocumentDb.Records

/-! ## Shapes -/

/-- A choice between variants: one without content, one with a number, and one with two fields. -/
inductive Shape where
  | dot
  | circle (radius : Int32)
  | rect (width height : Int32)
deriving DecidableEq

namespace Shape

/-- The names of the variants. -/
def variants : List String := ["Dot", "Circle", "Rect"]

/-- The fields of a rectangle. -/
def rectFields : RecordDecoder Shape :=
  RecordDecoder.pure Shape.rect
    |>.field (.required "w")
    |>.field (.required "h")

/-- Reads the content of a rectangle, which must be a document. -/
def decodeRect : Decoder Shape
  | .document es => rectFields.ofEntries es
  | v => failHere (.wrongKind v "expected a struct")

/-- Reads a variant from its name and its content, if it has some. -/
def ofVariant (name : String) (content : Option Value) : Except DecodeFailure Shape :=
  if name = "Dot" then .ok dot
  else if name = "Circle" then
    within name <|
      match content with
      | some v => circle <$> decoder v
      | none => failHere .noContent
  else if name = "Rect" then
    within name <|
      match content with
      | some v => decodeRect v
      | none => failHere .noContent
  else failHere (.unknownVariant name variants)

instance : Decode Shape :=
  ⟨fun
    | .string name => ofVariant name none
    | .document [] => failHere .noVariant
    | .document [(name, v)] => ofVariant name (some v)
    | .document (_ :: (key, _) :: _) => failHere (.extraKey key)
    | v => failHere (.wrongKind v "expected an enum")⟩

instance : Encode Shape :=
  ⟨fun
    | dot => .ok (.string "Dot")
    | circle r => .ok (.document (Document.single "Circle" (.int32 r)))
    | rect w h =>
      .ok (.document (Document.single "Rect" (.document [("w", .int32 w), ("h", .int32 h)])))⟩

end Shape

/-! ## Items -/

/-- A quantity of some goods. -/
structure Item where
  sku : String
  quantity : UInt32
deriving DecidableEq

instance : Decode Item :=
  ⟨(RecordDecoder.pure Item.mk
    |>.field (.required "sku")
    |>.field (.required "qty")).toDecoder "Item"⟩

instance : Encode Item :=
  ⟨fun i => do return .document [("sku", .string i.sku), ("qty", ← encode i.quantity)]⟩

/-! ## Settings -/

/-- A map whose keys stand in alphabetical order. -/
structure SortedMap (α : Type) where
  entries : Assoc α

instance {α : Type} [Decode α] : Decode (SortedMap α) :=
  ⟨fun v => do
    let es : Assoc α ← decoder v
    return ⟨es.mergeSort fun a b => decide (a.1 ≤ b.1)⟩⟩

instance {α : Type} [Encode α] : Encode (SortedMap α) :=
  ⟨fun m => encode m.entries⟩

/-- A field of each kind. -/
structure Settings where
  isOn : Bool
  ratio : Binary64
  big : Int64
  small : UInt8
  note : Option String
  extraNote : Option Int32
  shape : Shape
  limits : SortedMap Int32
  items : List Item
  owner : Id "owners"

instance : Decode Settings :=
  ⟨(RecordDecoder.pure Settings.mk
    |>.field (.required "isOn")
    |>.field (.required "ratio")
    |>.field (.required "big")
    |>.field (.required "small")
    |>.field (.optional "note")
    |>.field (.optional "extraNote")
    |>.field (.required "shape")
    |>.field (.required "limits")
    |>.field (.required "items")
    |>.field (.required "owner")).toDecoder "Settings"⟩

instance : Encode Settings :=
  ⟨fun s => do
    let front : Document := [("isOn", .bool s.isOn), ("ratio", .double s.ratio),
      ("big", .int64 s.big), ("small", ← encode s.small), ("note", ← encode s.note)]
    let extra : Document := match s.extraNote with
      | some n => [("extraNote", .int32 n)]
      | none => []
    let back : Document := [("shape", ← encode s.shape), ("limits", ← encode s.limits),
      ("items", ← encode s.items), ("owner", ← encode s.owner)]
    return .document (front ++ extra ++ back)⟩

end DocumentDb.Records
