import DocumentDb.Codec.Converter

/-!
# Contacts

A record within a record: a name with an address.
-/

namespace DocumentDb.Records

/-- A postal address. -/
structure Address where
  zip : String
  lines : List String
deriving DecidableEq

instance : Decode Address :=
  ⟨(RecordDecoder.pure Address.mk
    |>.field (.required "zip")
    |>.field (.required "lines")).toDecoder "Address"⟩

instance : Encode Address :=
  ⟨fun a => .ok (.document [("zip", .string a.zip), ("lines", .array (a.lines.map .string))])⟩

/-- A name with an address. -/
structure Contact where
  name : String
  address : Address
deriving DecidableEq

instance : Decode Contact :=
  ⟨(RecordDecoder.pure Contact.mk
    |>.field (.required "name")
    |>.field (.required "address")).toDecoder "Contact"⟩

instance : Encode Contact :=
  ⟨fun c => do return .document [("name", .string c.name), ("address", ← encode c.address)]⟩

end DocumentDb.Records
