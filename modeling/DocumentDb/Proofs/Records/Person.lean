import DocumentDb.Proofs.Codec.Record
import DocumentDb.Records.Person

/-!
# People are stored faithfully

The converter that comes with the type and the one that goes field by field store a person as the
same document, and both read the person back from it.

**Other documents.** Neither depends on the order of the entries, nor on entries under keys that a
person does not have: the first passes over them, and the second never looks there.
-/

namespace DocumentDb.Records.Person

variable {p : Person} {d : Document}

/-- The document of a person has the keys of its fields, each of them once. -/
def dictionary (p : Person) : Dictionary where
  document := p.document
  nodup_keys := show [idKey, "name", "age", "tags"].Nodup by decide

/-- The document holds a person under the keys of its fields. -/
structure StoredIn (p : Person) (d : Document) : Prop where
  id : d.get? idKey = some (.string p.id.value)
  name : d.get? "name" = some (.string p.name)
  age : d.get? "age" = some (.int32 p.age)
  tags : d.get? "tags" = some (.array (p.tags.map .string))

theorem storedIn_document (p : Person) : p.StoredIn p.document :=
  ⟨rfl, rfl, rfl, rfl⟩

/-- Entries in another order, and others among them, leave a person where it was. -/
theorem storedIn_of_perm {d : Dictionary} {extra : Document}
    (hp : d.document.Perm (p.document ++ extra)) : p.StoredIn d.document := by
  have hget {k : String} (hk : k ∈ p.document.keys) : d.document.get? k = p.document.get? k := by
    rw [Assoc.get?_of_perm hp d.nodup_keys, Assoc.get?_append_of_mem hk]
  have hdoc := storedIn_document p
  exact ⟨(hget (by simp [document, Assoc.keys])).trans hdoc.id,
    (hget (by simp [document, Assoc.keys])).trans hdoc.name,
    (hget (by simp [document, Assoc.keys])).trans hdoc.age,
    (hget (by simp [document, Assoc.keys])).trans hdoc.tags⟩

theorem decoder_tags (p : Person) :
    decoder (.array (p.tags.map .string)) = Except.ok p.tags :=
  faithful_list faithful_string p.tags _ (encode_strings p.tags)

namespace StoredIn

/-- The fields one by one, with what is stored of each. -/
theorem yields (h : p.StoredIn d) : fields.Yields d p :=
  RecordDecoder.yields_pure d Person.mk
    |>.field (FieldDecoder.ofDocument_of_get? h.id (faithful_id p.id _ rfl))
    |>.field (FieldDecoder.ofDocument_of_get? h.name (faithful_string p.name _ rfl))
    |>.field (FieldDecoder.ofDocument_of_get? h.age (faithful_int32 p.age _ rfl))
    |>.field (FieldDecoder.ofDocument_of_get? h.tags (decoder_tags p))

theorem converter_ofDocument {d : Dictionary} (h : p.StoredIn d.document) :
    converter.ofDocument d.document = .ok p := by
  have hdec : decoder (.document d.document) = Except.ok p := h.yields.ofEntries
  change decodeDocument d.document = _
  rw [decodeDocument, hdec]

theorem fieldwiseConverter_ofDocument (h : p.StoredIn d) :
    fieldwiseConverter.ofDocument d = .ok p := by
  have hid : requiredField d idKey = .ok p.id :=
    requiredField_of_get? h.id (by simp) (faithful_id p.id _ rfl)
  have hname : requiredField d "name" = .ok p.name :=
    requiredField_of_get? h.name (by simp) (faithful_string p.name _ rfl)
  have hage : requiredField d "age" = .ok p.age :=
    requiredField_of_get? h.age (by simp) (faithful_int32 p.age _ rfl)
  have htags : optionalField d "tags" = .ok (some p.tags) :=
    optionalField_of_get? h.tags (by simp) (decoder_tags p)
  rw [fieldwiseConverter]
  simp only [hid, hname, hage, htags]
  rfl

end StoredIn

theorem fieldwiseConverter_toDocument (p : Person) :
    fieldwiseConverter.toDocument p = .ok p.document :=
  bind_pure_eq_ok_iff.2 ⟨_, encode_strings p.tags, rfl⟩

/-- **A person is stored and read back alike** by both converters, and entries in another order or
under other keys make no difference. -/
theorem converters_agree (p : Person) :
    ∃ d, converter.toDocument p = .ok d ∧ fieldwiseConverter.toDocument p = .ok d ∧
      converter.ofDocument d = .ok p ∧ fieldwiseConverter.ofDocument d = .ok p ∧
      ∀ (d' : Dictionary) (extra : Document), d'.document.Perm (d ++ extra) →
        converter.ofDocument d'.document = .ok p ∧
          fieldwiseConverter.ofDocument d'.document = .ok p := by
  have hdoc : p.StoredIn p.dictionary.document := storedIn_document p
  refine ⟨p.document, rfl, fieldwiseConverter_toDocument p, hdoc.converter_ofDocument,
    hdoc.fieldwiseConverter_ofDocument, fun d' extra hp => ?_⟩
  have h := storedIn_of_perm hp
  exact ⟨h.converter_ofDocument, h.fieldwiseConverter_ofDocument⟩

/-- A document that was turned round and holds a name that no person has. -/
theorem converters_agree_turned :
    let ada : Person := ⟨⟨"1", by decide⟩, "Ada", 36, ["née", ""]⟩
    let d : Dictionary :=
      { document := [("nickname", .null), ("tags", .array [.string "née", .string ""]),
          ("age", .int32 36), ("name", .string "Ada"), (idKey, .string "1")] }
    d.document.Perm (ada.document ++ [("nickname", .null)]) ∧
      converter.ofDocument d.document = .ok ada ∧
      fieldwiseConverter.ofDocument d.document = .ok ada := by
  intro ada d
  have hp : d.document.Perm (ada.document ++ [("nickname", .null)]) :=
    List.reverse_perm (ada.document ++ [("nickname", Value.null)])
  obtain ⟨d₀, h₀, -, -, -, h⟩ := converters_agree ada
  obtain rfl : ada.document = d₀ := Except.ok.inj h₀
  exact ⟨hp, h d _ hp⟩

end DocumentDb.Records.Person
