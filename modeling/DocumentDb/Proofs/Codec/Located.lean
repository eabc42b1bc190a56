import DocumentDb.Codec.Decode
import DocumentDb.Expression.Arithmetic
import DocumentDb.Proofs.Result

/-!
# Where decoding fails

**Ways into values** (`Value.Leads`). A path leads through the keys of documents and the places of
items to a part of a value.

**Located failures** (`DecodeFailure.LocatedIn`). The path of a failure leads to a part of the value
that has the fault: it is the value of the wrong kind, the integer out of range, or the document
that lacks the key.

**Types that locate failures** (`LocatedDecode`). Texts, truth values, numbers and identifiers do,
and optional values, lists and maps do if their items do. A record does if its fields do
(`RecordDecoder.Locates.toDecoder`), whether it is read from a document or from an array.
-/

namespace DocumentDb

/-! ## Ways into values -/

/-- A path leads from a value to a part of it: through the keys of documents, the places of items,
and the name of a variant without content. -/
inductive Value.Leads : Value → List String → Value → Prop
  | here (v : Value) : Leads v [] v
  | entry {v w u : Value} {es : Document} {k : String} {path : List String}
      (he : v.entries? = some es) (hm : (k, w) ∈ es) (h : Leads w path u) :
      Leads v (k :: path) u
  | item {items : List Value} {w u : Value} {place : Nat} {path : List String}
      (hi : items[place]? = some w) (h : Leads w path u) :
      Leads (.array items) (toString place :: path) u
  | variant (name : String) : Leads (.string name) [name] (.string name)

/-- What a fault says of the value that has it. (Where a whole document is wanted, any other value
is reported as an empty one.) -/
def DecodeFault.Concerns (fault : DecodeFault) (w : Value) : Prop :=
  match fault with
  | wrongKind got _ => got = w ∨ got = .document [] ∧ ∀ es, w ≠ .document es
  | outOfRange n _ => w.integer? = some n
  | missingField name => ∃ es, w.entries? = some es ∧ Assoc.get? es name = none
  | _ => True

/-- A failure is located in a value: its path leads to a part that has the fault. -/
def DecodeFailure.LocatedIn (f : DecodeFailure) (v : Value) : Prop :=
  ∃ w, v.Leads f.path w ∧ f.fault.Concerns w

/-- The failure of a part, seen from the whole. -/
def DecodeFailure.within (segment : String) (f : DecodeFailure) : DecodeFailure :=
  ⟨segment :: f.path, f.fault⟩

namespace DecodeFailure.LocatedIn

variable {f : DecodeFailure} {v w : Value} {es : Document} {k : String}

theorem here {fault : DecodeFault} (h : fault.Concerns v) : LocatedIn ⟨[], fault⟩ v :=
  ⟨v, .here v, h⟩

theorem entry (he : v.entries? = some es) (hm : (k, w) ∈ es) (h : f.LocatedIn w) :
    (f.within k).LocatedIn v := by
  obtain ⟨u, hu, hc⟩ := h
  exact ⟨u, .entry he hm hu, hc⟩

theorem item {items : List Value} {place : Nat} (hi : items[place]? = some w) (h : f.LocatedIn w) :
    (f.within (toString place)).LocatedIn (.array items) := by
  obtain ⟨u, hu, hc⟩ := h
  exact ⟨u, .item hi hu, hc⟩

end DecodeFailure.LocatedIn

theorem within_eq_error_iff {α : Type} {segment : String} {r : Except DecodeFailure α}
    {f : DecodeFailure} :
    within segment r = .error f ↔ ∃ g, r = .error g ∧ f = g.within segment := by
  cases r <;> simp [within, DecodeFailure.within, eq_comm]

/-! ## Types whose decoders locate their failures -/

/-- Every failure of a decoder is located in the value. -/
def Locates {α : Type} (dec : Decoder α) : Prop :=
  ∀ ⦃v f⦄, dec v = .error f → f.LocatedIn v

/-- A type whose decoder locates its failures. -/
class LocatedDecode (α : Type) [Decode α] : Prop where
  locates : Locates (decoder : Decoder α)

export LocatedDecode (locates)

section Single

variable {α : Type}

theorem Locates.map {β : Type} {dec : Decoder α} (h : Locates dec) (g : α → β) :
    Locates fun v => g <$> dec v :=
  fun _ _ hf => h (map_eq_error_iff.1 hf)

theorem locates_decodeInteger (wanted : String) (low high : Int) :
    Locates (decodeInteger wanted low high) := by
  intro v f h
  cases v with
  | int32 n | int64 n =>
    rw [decodeInteger] at h
    split at h
    · cases h
    · cases h
      exact .here rfl
  | _ =>
    cases h
    exact .here (.inl rfl)

instance : LocatedDecode String where
  locates v f h := by
    cases v with
    | string s => cases h
    | _ =>
      cases h
      exact .here (.inl rfl)

instance : LocatedDecode Bool where
  locates v f h := by
    cases v with
    | bool b => cases h
    | _ =>
      cases h
      exact .here (.inl rfl)

instance : LocatedDecode Int32 := ⟨Locates.map (locates_decodeInteger _ _ _) _⟩

instance : LocatedDecode Int64 := ⟨Locates.map (locates_decodeInteger _ _ _) _⟩

instance : LocatedDecode UInt8 := ⟨Locates.map (locates_decodeInteger _ _ _) _⟩

instance : LocatedDecode UInt32 := ⟨Locates.map (locates_decodeInteger _ _ _) _⟩

instance : LocatedDecode Binary64 where
  locates v f h := by
    cases v with
    | double x | int32 n | int64 n => cases h
    | _ =>
      cases h
      exact .here (.inl rfl)

instance : LocatedDecode Value := ⟨fun _ _ h => nomatch h⟩

instance {collection : String} : LocatedDecode (Id collection) where
  locates v f h := by
    obtain h | ⟨s, -, h⟩ := bind_eq_error_iff.1 h
    · exact locates h
    · split at h
      · cases h
      · cases h
        exact .here trivial

instance [Decode α] [LocatedDecode α] : LocatedDecode (Option α) where
  locates v f h := by
    cases v with
    | null => cases h
    | _ => exact locates (map_eq_error_iff.1 h)

instance : LocatedDecode Document where
  locates v f h := by
    cases v with
    | document es => cases h
    | _ =>
      cases h
      exact .here (.inr ⟨rfl, fun es he => nomatch he⟩)

end Single

/-! ## Lists and maps -/

section Several

variable {α : Type} [Decode α] [LocatedDecode α]

theorem exists_of_decodeItems {vs : List Value} {place : Nat} {f : DecodeFailure}
    (h : (decodeItems place vs : Except DecodeFailure (List α)) = .error f) :
    ∃ (i : Nat) (w : Value) (g : DecodeFailure), vs[i]? = some w ∧ g.LocatedIn w ∧
      f = g.within (toString (place + i)) := by
  induction vs generalizing place with
  | nil => cases h
  | cons v vs ih =>
    rw [decodeItems] at h
    obtain h | ⟨a, -, h⟩ := bind_eq_error_iff.1 h
    · obtain ⟨g, hg, rfl⟩ := within_eq_error_iff.1 h
      exact ⟨0, v, g, rfl, locates hg, rfl⟩
    · obtain ⟨i, w, g, hi, hg, rfl⟩ := ih (bind_pure_eq_error_iff.1 h)
      exact ⟨i + 1, w, g, hi, hg, by rw [Nat.add_right_comm, Nat.add_assoc]⟩

instance : LocatedDecode (List α) where
  locates v f h := by
    cases v with
    | array items =>
      obtain ⟨i, w, g, hi, hg, rfl⟩ := exists_of_decodeItems h
      rw [Nat.zero_add]
      exact hg.item hi
    | _ =>
      cases h
      exact .here (.inl rfl)

theorem exists_of_decodeEntries {es : Document} {f : DecodeFailure}
    (h : (decodeEntries es : Except DecodeFailure (Assoc α)) = .error f) :
    ∃ (k : String) (w : Value) (g : DecodeFailure), (k, w) ∈ es ∧ g.LocatedIn w ∧
      f = g.within k := by
  induction es with
  | nil => cases h
  | cons e es ih =>
    rw [decodeEntries] at h
    obtain h | ⟨a, -, h⟩ := bind_eq_error_iff.1 h
    · obtain ⟨g, hg, rfl⟩ := within_eq_error_iff.1 h
      exact ⟨e.1, e.2, g, List.mem_cons_self, locates hg, rfl⟩
    · obtain ⟨k, w, g, hm, hg, rfl⟩ := ih (bind_pure_eq_error_iff.1 h)
      exact ⟨k, w, g, List.mem_cons_of_mem e hm, hg, rfl⟩

instance : LocatedDecode (Assoc α) where
  locates v f h := by
    change (match v.entries? with
      | some es => decodeEntries es
      | none => failHere (.wrongKind v "a map")) = Except.error f at h
    split at h
    · next es he =>
      obtain ⟨k, w, g, hm, hg, rfl⟩ := exists_of_decodeEntries h
      exact hg.entry he hm
    · cases h
      exact .here (.inl rfl)

end Several

/-! ## Records -/

/-- The failures of all ways to read a record are located in the value that is read. -/
structure RecordDecoder.Locates {α : Type} (r : RecordDecoder α) : Prop where
  check {k v f} : r.check k v = .error f → ∃ g : DecodeFailure, g.LocatedIn v ∧ f = g.within k
  ofDocument {v es f} : Value.entries? v = some es → r.ofDocument es = .error f → f.LocatedIn v
  ofItems {wanted items f} : r.ofItems wanted items = .error f → f.LocatedIn (.array items)
  /-- The items that are left are those behind the fields. -/
  rest {wanted items a rest} :
    r.ofItems wanted items = .ok (a, rest) → rest = items.drop r.size

namespace RecordDecoder

variable {α β : Type}

theorem locates_pure (a : α) : (pure a).Locates where
  check h := nomatch h
  ofDocument _ h := nomatch h
  ofItems h := nomatch h
  rest h := by
    cases h
    rfl

theorem Locates.field {r : RecordDecoder (α → β)} {f : FieldDecoder α} (hr : r.Locates)
    (hf : DocumentDb.Locates f.read) : (r.field f).Locates where
  check {k v e} h := by
    change (if k = f.key then _ else _) = _ at h
    split at h
    · next hk =>
      obtain ⟨g, hg, rfl⟩ := within_eq_error_iff.1 (map_eq_error_iff.1 h)
      exact ⟨g, hf hg, by rw [hk]⟩
    · exact hr.check h
  ofDocument {v es e} he h := by
    obtain h | ⟨g, -, h⟩ := bind_eq_error_iff.1 h
    · exact hr.ofDocument he h
    · rw [bind_pure_eq_error_iff, FieldDecoder.ofDocument] at h
      split at h
      · next w hw =>
        obtain ⟨g, hg, rfl⟩ := within_eq_error_iff.1 h
        exact (hf hg).entry he (Assoc.mem_of_get? hw)
      · next hn =>
        split at h
        · cases h
          exact .here ⟨es, he, hn⟩
        · cases h
        · cases h
  ofItems {wanted items e} h := by
    obtain h | ⟨⟨g, rest⟩, hg, h⟩ := bind_eq_error_iff.1 h
    · exact hr.ofItems h
    · have hrest := hr.rest hg
      cases rest with
      | cons v rest =>
        obtain ⟨g', hg', rfl⟩ := within_eq_error_iff.1 (bind_pure_eq_error_iff.1 h)
        refine (hf hg').item ?_
        rw [← List.head?_drop, ← hrest]
        rfl
      | nil =>
        cases ha : f.absence with
        | defaulted a =>
          simp only [ha] at h
          cases h
        | refused | accepted =>
          simp only [ha] at h
          cases h
          exact .here trivial
  rest {wanted items a rest} h := by
    obtain ⟨⟨g, rest'⟩, hg, h⟩ := bind_eq_ok_iff.1 h
    -- The field takes the first of the items that the fields before it have left.
    have hrest : rest'.tail = items.drop (r.size + 1) := by
      rw [hr.rest hg, List.tail_drop]
    refine Eq.trans ?_ hrest
    cases rest' with
    | cons v rest' =>
      obtain ⟨b, -, he⟩ := bind_pure_eq_ok_iff.1 h
      cases he
      rfl
    | nil =>
      cases ha : f.absence with
      | defaulted a =>
        simp only [ha] at h
        cases h
        rfl
      | refused | accepted =>
        simp only [ha] at h
        cases h

theorem checkEntries_eq_error {r : RecordDecoder α} {es : Document} {f : DecodeFailure}
    (h : r.checkEntries es = .error f) : ∃ e ∈ es, r.check e.1 e.2 = .error f := by
  induction es with
  | nil => cases h
  | cons e es ih =>
    rw [checkEntries] at h
    obtain h | ⟨-, -, h⟩ := bind_eq_error_iff.1 h
    · exact ⟨e, List.mem_cons_self, h⟩
    · obtain ⟨e', he', h⟩ := ih h
      exact ⟨e', List.mem_cons_of_mem e he', h⟩

theorem Locates.ofEntries {r : RecordDecoder α} (hr : r.Locates) {v : Value} {es : Document}
    {f : DecodeFailure} (he : v.entries? = some es) (h : r.ofEntries es = .error f) :
    f.LocatedIn v := by
  obtain h | ⟨-, -, h⟩ := bind_eq_error_iff.1 h
  · obtain ⟨e, hm, h⟩ := checkEntries_eq_error h
    obtain ⟨g, hg, rfl⟩ := hr.check h
    exact hg.entry he hm
  · exact hr.ofDocument he h

theorem Locates.toDecoder {r : RecordDecoder α} (hr : r.Locates) (name : String) :
    DocumentDb.Locates (r.toDecoder name) := by
  intro v f h
  unfold RecordDecoder.toDecoder at h
  split at h
  · next items => exact hr.ofItems (bind_pure_eq_error_iff.1 h)
  · split at h
    · next es he => exact hr.ofEntries he h
    · cases h
      exact .here (.inl rfl)

end RecordDecoder

end DocumentDb
