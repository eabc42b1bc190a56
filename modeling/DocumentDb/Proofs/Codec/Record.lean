import DocumentDb.Codec.Decode
import DocumentDb.Codec.Encode
import DocumentDb.Proofs.Result
import DocumentDb.Proofs.Value.Keyed

/-!
# Laws of encoding and decoding

**Faithful types** (`Faithful`). What is stored of a value decodes to it. Texts, integers,
identifiers and lists of faithful values are so.

**Records** (`RecordDecoder.Yields`). A record decoder goes through all entries of a document before
it takes the fields by their keys. Where no key is there twice, all that counts is what stands under
the keys of the fields: the record is what its fields give one by one (`Yields.field`).
-/

namespace DocumentDb

/-! ## Values -/

/-- What is stored of a value decodes to it. -/
def Faithful (α : Type) [Encode α] [Decode α] : Prop :=
  ∀ (a : α) (v : Value), encode a = .ok v → decoder v = .ok a

theorem faithful_string : Faithful String := by
  rintro s _ ⟨⟩
  rfl

theorem faithful_int32 : Faithful Int32 := by
  rintro n _ ⟨⟩
  have hn : Int32.minValue.toInt ≤ n.toInt ∧ n.toInt ≤ Int32.maxValue.toInt :=
    ⟨n.minValue_le_toInt, n.toInt_le⟩
  change Int32.ofInt <$> decodeInteger _ _ _ _ = _
  rw [decodeInteger, if_pos hn]
  exact congrArg Except.ok n.ofInt_toInt

theorem faithful_id {collection : String} : Faithful (Id collection) := by
  rintro i _ ⟨⟩
  refine bind_eq_ok_iff.2 ⟨i.value, rfl, ?_⟩
  rw [Id.parse_value]

theorem decodeItems_of_encodeItems {α : Type} [Encode α] [Decode α] (h : Faithful α)
    {as : List α} {vs : List Value} (he : encodeItems as = .ok vs) (place : Nat) :
    decodeItems place vs = .ok as := by
  induction as generalizing vs place with
  | nil =>
    cases he
    rfl
  | cons a as ih =>
    rw [encodeItems] at he
    obtain ⟨v, hv, he⟩ := bind_eq_ok_iff.1 he
    obtain ⟨vs, hvs, rfl⟩ := bind_pure_eq_ok_iff.1 he
    rw [decodeItems, h a v hv, ih hvs]
    rfl

theorem faithful_list {α : Type} [Encode α] [Decode α] (h : Faithful α) : Faithful (List α) := by
  intro as v hv
  obtain ⟨vs, hvs, rfl⟩ := bind_pure_eq_ok_iff.1 hv
  exact decodeItems_of_encodeItems h hvs 0

theorem encode_strings (ss : List String) : encode ss = Except.ok (.array (ss.map .string)) := by
  refine bind_pure_eq_ok_iff.2 ⟨_, ?_, rfl⟩
  induction ss with
  | nil => rfl
  | cons s ss ih =>
    rw [encodeItems, ih]
    rfl

/-! ## Records -/

namespace FieldDecoder

variable {α : Type} {f : FieldDecoder α} {d : Document} {v : Value} {a : α}

theorem ofDocument_eq_within (h : d.get? f.key = some v) :
    f.ofDocument d = within f.key (f.read v) := by
  rw [ofDocument, h]

theorem ofDocument_of_get? (h : d.get? f.key = some v) (ha : f.read v = .ok a) :
    f.ofDocument d = .ok a := by
  rw [ofDocument_eq_within h, ha]
  rfl

end FieldDecoder

namespace RecordDecoder

variable {α β : Type} {d : Document} {a : α}

/-- The record is read from the fields of the document, and no entry is refused that a look-up
finds. -/
structure Yields (r : RecordDecoder α) (d : Document) (a : α) : Prop where
  ofDocument : r.ofDocument d = .ok a
  check : ∀ k v, d.get? k = some v → r.check k v = .ok ()

theorem yields_pure (d : Document) (a : α) : (pure a).Yields d a :=
  ⟨rfl, fun _ _ _ => rfl⟩

/-- A further field that reads well makes a further part of the record. -/
theorem Yields.field {r : RecordDecoder (α → β)} {g : α → β} {f : FieldDecoder α}
    (h : r.Yields d g) (hf : f.ofDocument d = .ok a) : (r.field f).Yields d (g a) where
  ofDocument := bind_eq_ok_iff.2 ⟨g, h.ofDocument, bind_pure_eq_ok_iff.2 ⟨a, hf, rfl⟩⟩
  check k v hv := by
    change (if k = f.key then (fun _ => ()) <$> within k (f.read v) else r.check k v) = _
    by_cases hk : k = f.key
    · subst hk
      rw [if_pos rfl, ← FieldDecoder.ofDocument_eq_within hv, hf]
      rfl
    · rw [if_neg hk]
      exact h.check k v hv

theorem checkEntries_eq_ok_of_forall {r : RecordDecoder α}
    (h : ∀ e ∈ d, r.check e.1 e.2 = .ok ()) : r.checkEntries d = .ok () := by
  induction d with
  | nil => rfl
  | cons e d ih =>
    rw [List.forall_mem_cons] at h
    rw [checkEntries, h.1, ih h.2]
    rfl

theorem Yields.ofEntries {r : RecordDecoder α} {d : Dictionary} (h : r.Yields d.document a) :
    r.ofEntries d.document = .ok a := by
  have hc : r.checkEntries d.document = .ok () :=
    checkEntries_eq_ok_of_forall fun e he =>
      h.check e.1 e.2 (Assoc.get?_of_mem d.nodup_keys he)
  rw [RecordDecoder.ofEntries, hc, h.ofDocument]
  rfl

end RecordDecoder

/-! ## Single fields -/

section Fields

variable {α : Type} {d : Document} {field : String} {v : Value} {a : α}

theorem requiredField_of_get? [Decode α] (h : d.get? field = some v) (hv : v ≠ .null)
    (ha : decoder v = Except.ok a) : requiredField d field = .ok a := by
  rw [requiredField, h]
  split
  · next hnone => cases hnone
  · next hnull => exact (hv (Option.some.inj hnull)).elim
  · next w hw =>
    cases hw
    rw [ha]

theorem optionalField_of_get? [Decode α] (h : d.get? field = some v) (hv : v ≠ .null)
    (ha : decoder v = Except.ok a) : optionalField d field = .ok (some a) := by
  rw [optionalField, h]
  split
  · next hnone => cases hnone
  · next hnull => exact (hv (Option.some.inj hnull)).elim
  · next w hw =>
    cases hw
    rw [ha]

end Fields

end DocumentDb
