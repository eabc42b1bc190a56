import DocumentDb.Codec.Converter

/-!
# Results of aggregations over people

Records that pipelines make of people: groups by age, and short summaries.
-/

namespace DocumentDb.Records

/-- The people of one age. -/
structure AgeGroup where
  age : Int32
  names : List String
  count : Int32
deriving DecidableEq

instance : Decode AgeGroup :=
  ⟨(RecordDecoder.pure AgeGroup.mk
    |>.field (.required idKey)
    |>.field (.required "names")
    |>.field (.required "count")).toDecoder "AgeGroup"⟩

instance : Encode AgeGroup :=
  ⟨fun g => .ok (.document
    [(idKey, .int32 g.age), ("names", .array (g.names.map .string)), ("count", .int32 g.count)])⟩

/-- The name of a person with the number of tags and the first of them. -/
structure Summary where
  name : String
  tagCount : Int32
  firstTag : Option String
deriving DecidableEq

instance : Decode Summary :=
  ⟨(RecordDecoder.pure Summary.mk
    |>.field (.required "name")
    |>.field (.required "tag_count")
    |>.field (.optional "first_tag")).toDecoder "Summary"⟩

instance : Encode Summary :=
  ⟨fun s => do
    return .document
      [("name", .string s.name), ("tag_count", .int32 s.tagCount),
        ("first_tag", ← encode s.firstTag)]⟩

end DocumentDb.Records
