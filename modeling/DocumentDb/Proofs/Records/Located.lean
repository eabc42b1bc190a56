import DocumentDb.Proofs.Codec.Located
import DocumentDb.Proofs.Codec.Message
import DocumentDb.Records.Contact
import DocumentDb.Records.Person
import DocumentDb.Records.Report
import DocumentDb.Records.Settings

/-!
# Errors of records that do not decode

All records locate their failures, and so does a choice between variants, whose name is a part of
the path.

**Theorem (`decodeField_names_place_iff`).** The error for a document that does not decode names the
place at fault exactly if the failure is clear. An integer out of range is named rightly in any
case, and a value of the wrong kind unless it is a text that speaks of a missing field.
-/

namespace DocumentDb

namespace Records

instance : LocatedDecode Address :=
  ⟨(RecordDecoder.locates_pure _ |>.field locates |>.field locates).toDecoder _⟩

instance : LocatedDecode Contact :=
  ⟨(RecordDecoder.locates_pure _ |>.field locates |>.field locates).toDecoder _⟩

instance : LocatedDecode Person :=
  ⟨(RecordDecoder.locates_pure _ |>.field locates |>.field locates |>.field locates
    |>.field locates).toDecoder _⟩

instance : LocatedDecode AgeGroup :=
  ⟨(RecordDecoder.locates_pure _ |>.field locates |>.field locates |>.field locates).toDecoder _⟩

instance : LocatedDecode Summary :=
  ⟨(RecordDecoder.locates_pure _ |>.field locates |>.field locates |>.field locates).toDecoder _⟩

instance : LocatedDecode Item :=
  ⟨(RecordDecoder.locates_pure _ |>.field locates |>.field locates).toDecoder _⟩

instance {α : Type} [Decode α] [LocatedDecode α] : LocatedDecode (SortedMap α) where
  locates _ _ h := locates (bind_pure_eq_error_iff.1 h)

namespace Shape

theorem locates_decodeRect : Locates decodeRect := by
  intro v f h
  cases v with
  | document es =>
    exact (RecordDecoder.locates_pure _ |>.field locates |>.field locates).ofEntries rfl h
  | _ =>
    cases h
    exact .here (.inl rfl)

/-- A variant with content fails in the content, or it is unknown. -/
theorem exists_of_ofVariant_some {name : String} {v : Value} {f : DecodeFailure}
    (h : ofVariant name (some v) = .error f) :
    (∃ g : DecodeFailure, g.LocatedIn v ∧ f = g.within name) ∨
      f = ⟨[], .unknownVariant name variants⟩ := by
  unfold ofVariant at h
  split at h
  · cases h
  · split at h
    · obtain ⟨g, hg, rfl⟩ := within_eq_error_iff.1 h
      exact .inl ⟨g, locates (map_eq_error_iff.1 hg), rfl⟩
    · split at h
      · obtain ⟨g, hg, rfl⟩ := within_eq_error_iff.1 h
        exact .inl ⟨g, locates_decodeRect hg, rfl⟩
      · cases h
        exact .inr rfl

/-- A variant without content fails for want of it, or it is unknown. -/
theorem eq_of_ofVariant_none {name : String} {f : DecodeFailure}
    (h : ofVariant name none = .error f) :
    f = ⟨[name], .noContent⟩ ∨ f = ⟨[], .unknownVariant name variants⟩ := by
  unfold ofVariant at h
  split at h
  · cases h
  · split at h
    · cases h
      exact .inl rfl
    · split at h
      · cases h
        exact .inl rfl
      · cases h
        exact .inr rfl

instance : LocatedDecode Shape where
  locates v f h := by
    cases v with
    | string name =>
      obtain rfl | rfl := eq_of_ofVariant_none h
      · exact ⟨_, .variant name, trivial⟩
      · exact .here trivial
    | document es =>
      match es with
      | [] =>
        cases h
        exact .here trivial
      | [(name, v)] =>
        obtain ⟨g, hg, rfl⟩ | rfl := exists_of_ofVariant_some h
        · exact hg.entry rfl List.mem_cons_self
        · exact .here trivial
      | _ :: _ :: _ =>
        cases h
        exact .here trivial
    | _ =>
      cases h
      exact .here (.inl rfl)

end Shape

instance : LocatedDecode Settings :=
  ⟨(RecordDecoder.locates_pure _ |>.field locates |>.field locates |>.field locates
    |>.field locates |>.field locates |>.field locates |>.field locates |>.field locates
    |>.field locates |>.field locates).toDecoder _⟩

end Records

/-! ## Main result -/

section

variable {α : Type} [Encode α] [Decode α] [LocatedDecode α] {d : Document} {e : Error}

/-- **The field that an error names.** If a document does not decode, the failure is located in it:
the path leads to the value of the wrong kind, to the integer out of range, or to the document that
lacks the key. The error names this place exactly if the failure is clear. A missing key is named
behind the path of the document, unless it has a backquote in it. An integer out of range is named
by its path, and a value of the wrong kind exactly if it is no text that speaks of a missing field.
(The path of the empty key alone is taken for none.) -/
theorem decodeField_names_place_iff (h : (Converter.derived α).ofDocument d = .error e) :
    ∃ f : DecodeFailure, (decoder (.document d) : Except DecodeFailure α) = .error f ∧
      f.LocatedIn (.document d) ∧
      e = .decode e.decodeField f.fault.wording ∧
      (e.decodeField = f.placeName? ↔ f.Clear) ∧
      (∀ name, f.fault = .missingField name →
        (e.decodeField = some (Path.ofSegments (f.path ++ [name])) ↔
          '`' ∉ name.toList ∧ f.path ≠ [""])) ∧
      ∀ wanted, '`' ∉ wanted.toList → f.path ≠ [""] →
        (∀ got, f.fault = .wrongKind got wanted →
          (e.decodeField = f.placeName? ↔ ∀ s, got = .string s → ¬ SpeaksOfMissing s.toList)) ∧
        ∀ n, f.fault = .outOfRange n wanted → e.decodeField = f.placeName? := by
  change decodeDocument d = _ at h
  rw [decodeDocument] at h
  split at h
  · cases h
  · next f hf =>
    cases h
    have hclear := f.decodeField_error_iff
    refine ⟨f, hf, locates hf, rfl, hclear, fun name hn => ?_, fun wanted hw hpath =>
      ⟨fun got hgot => hclear.trans (DecodeFailure.clear_iff_of_wrongKind hgot hw hpath),
        fun n hn => hclear.2 (DecodeFailure.clear_of_outOfRange hn hw hpath)⟩⟩
    rw [← DecodeFailure.placeName?_of_missingField hn]
    exact hclear.trans (DecodeFailure.clear_iff_of_missingField hn)

/-- A line of an address that is no text is named by its place. -/
theorem decodeField_names_line :
    let d : Document := [("name", .string "A"), ("address", .document
      [("zip", .string "1"), ("lines", .array [.string "a", .int32 5])])]
    let f : DecodeFailure := ⟨["address", "lines", "1"], .wrongKind (.int32 5) "a string"⟩
    (Converter.derived Records.Contact).ofDocument d =
        .error (.decode (some "address.lines.1") f.fault.wording) ∧
      f.LocatedIn (.document d) ∧ f.placeName? = some "address.lines.1" := by
  intro d f
  have h : (Converter.derived Records.Contact).ofDocument d = .error f.error := rfl
  have hplace : f.placeName? = some "address.lines.1" := by decide
  have hf : (decoder (.document d) : Except DecodeFailure Records.Contact) = .error f := rfl
  obtain ⟨g, hg, hin, he, -, -, hkinds⟩ := decodeField_names_place_iff h
  obtain rfl : g = f := Except.error.inj (hg.symm.trans hf)
  have hname := ((hkinds "a string" (by decide) (by decide)).1 _ rfl).2 fun s hs => nomatch hs
  rw [hname, hplace] at he
  exact ⟨h.trans (congrArg Except.error he), hin, hplace⟩

/-- An age that has the words for a missing field in it is misread: the error names a field of the
age. -/
theorem decodeField_misled_by_age :
    let d : Document := [("_id", .string "a"), ("name", .string "A"),
      ("age", .string "missing field `x`"), ("tags", .array [])]
    let f : DecodeFailure := ⟨["age"], .wrongKind (.string "missing field `x`") "i32"⟩
    (decoder (.document d) : Except DecodeFailure Records.Person) = .error f ∧
      f.placeName? = some "age" ∧
      Records.Person.converter.ofDocument d =
        .error (.decode (some "age.x") f.fault.wording) := by
  intro d f
  have hquoted : Text.plainQuoted "missing field `x`" = "\"missing field `x`\"" := by
    rw [Text.plainQuoted, Text.flatMap_plainEscape_of_isPlain (by decide)]
    rfl
  have hmissing : missingFieldOf? f.fault.wording = some "x" := by
    show missingFieldOf? ("BSON error. Kind: A deserialization-related error occurred. Message: "
      ++ ("invalid type: " ++ ("string " ++ Text.plainQuoted "missing field `x`") ++ ", expected "
        ++ "i32") ++ ".") = some "x"
    rw [hquoted]
    decide +kernel
  refine ⟨rfl, by decide, ?_⟩
  show Except.error f.error = _
  rw [DecodeFailure.error, decodeErrorAt, hmissing]
  rfl

end

end DocumentDb
