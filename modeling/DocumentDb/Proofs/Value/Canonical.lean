import DocumentDb.Proofs.Value.NaN
import DocumentDb.Proofs.Value.Same
import Mathlib.Data.List.Perm.Subperm
import Mathlib.Data.List.Nodup
import Mathlib.Data.String.Basic

/-!
# Canonical forms

Being the same (`Value.same`) is an equality in disguise: of values in which the order of keys and
the signs of zeros are wiped out.

**Canonical forms** (`Value.canonical`). All documents in a value, at any depth, have their keys in
alphabetical order, and all zeros lose their sign. Nothing else changes: neither the order of items
nor any other number, text or kind.

**Theorem (`KeyedValue.same_iff_canonical_eq`).** Of values whose documents are maps, one is the
same as another exactly if it holds no NaN and has the same canonical form.

The entries of a document may be sorted by their keys since no key is there twice; so two sorted
lists are equal as soon as they have the same entries (`Assoc.sorted_eq_iff_perm`).
-/

namespace DocumentDb

/-! ## Canonical forms -/

/-- A number without its sign if it is zero. -/
def Binary64.unsigned (x : Binary64) : Binary64 :=
  if x.isZero then zero false else x

/-- The entries in the alphabetical order of their keys. -/
def Assoc.sorted {α : Type} (es : Assoc α) : Assoc α :=
  es.mergeSort fun e f => decide (e.1 ≤ f.1)

mutual

/-- A value with the keys of all documents in alphabetical order and all zeros without their
sign. -/
def Value.canonical : Value → Value
  | .double x => .double x.unsigned
  | .array items => .array (canonicalItems items)
  | .document entries => .document (Assoc.sorted (canonicalEntries entries))
  | .codeWithScope source scope => .codeWithScope source (Assoc.sorted (canonicalEntries scope))
  | v => v

/-- The items, each in its canonical form. -/
def canonicalItems : List Value → List Value
  | [] => []
  | v :: vs => v.canonical :: canonicalItems vs

/-- The entries with their values in canonical form, in the order in which they stand. -/
def canonicalEntries : List (String × Value) → List (String × Value)
  | [] => []
  | (k, v) :: es => (k, v.canonical) :: canonicalEntries es

end

/-! ## Numbers -/

theorem Binary64.isNaN_of_isZero {x : Binary64} (h : x.isZero = true) : x.isNaN = false := by
  have hm : x.magnitude = 0 := by simpa [isZero] using h
  simp [isNaN, exponent, hm, topExponent]

theorem Binary64.numericEq_iff (x y : Binary64) :
    x.numericEq y = true ↔ x.isNaN = false ∧ x.unsigned = y.unsigned := by
  have hzero : (zero false).isZero = true := by decide
  rw [numericEq, unsigned, unsigned]
  by_cases hx : x.isZero = true <;> by_cases hy : y.isZero = true
  · simp [hx, hy, isNaN_of_isZero]
  · have hne : zero false ≠ y := fun h => hy (h ▸ hzero)
    have hxy : x ≠ y := fun h => hy (h ▸ hx)
    simp [hx, hy, hne, hxy]
  · have hne : x ≠ zero false := fun h => hx (h ▸ hzero)
    have hxy : x ≠ y := fun h => hx (h ▸ hy)
    simp [hx, hy, hne, hxy]
  · simp only [hx, hy]
    by_cases hxy : x = y
    · simp [hxy]
    · simp [hxy]

/-! ## Entries in alphabetical order -/

namespace Assoc

variable {α : Type} {es fs : Assoc α}

theorem sorted_perm (es : Assoc α) : es.sorted.Perm es :=
  List.mergeSort_perm es _

theorem pairwise_sorted (es : Assoc α) : es.sorted.Pairwise fun e f => e.1 ≤ f.1 := by
  have h : List.Pairwise (fun e f => decide (e.1 ≤ f.1) = true)
      (es.mergeSort fun e f => decide (e.1 ≤ f.1)) :=
    List.pairwise_mergeSort
      (fun a b c hab hbc => by simp only [decide_eq_true_eq] at *; exact le_trans hab hbc)
      (fun a b => by simpa using le_total a.1 b.1) es
  simpa only [sorted, decide_eq_true_eq] using h

/-- Where no key is there twice, the alphabetical order tells which entries there are and nothing
else. -/
theorem sorted_eq_iff_perm (he : es.keys.Nodup) : es.sorted = fs.sorted ↔ es.Perm fs := by
  constructor
  · intro h
    exact (sorted_perm es).symm.trans (h ▸ sorted_perm fs)
  · intro hp
    refine List.Perm.eq_of_pairwise (fun e f hes hfs hef hfe => ?_) (pairwise_sorted es)
      (pairwise_sorted fs) ((sorted_perm es).trans (hp.trans (sorted_perm fs).symm))
    have hk : e.1 = f.1 := le_antisymm hef hfe
    have hv := get?_of_mem he ((sorted_perm es).mem_iff.1 hes)
    rw [hk, get?_of_mem he (hp.mem_iff.2 ((sorted_perm fs).mem_iff.1 hfs))] at hv
    exact Prod.ext hk (Option.some.inj hv).symm

theorem perm_iff_get? (he : es.keys.Nodup) (hf : fs.keys.Nodup) :
    es.Perm fs ↔ es.length = fs.length ∧ ∀ e ∈ es, fs.get? e.1 = some e.2 := by
  constructor
  · exact fun hp => ⟨hp.length_eq, fun e h => get?_of_mem hf (hp.mem_iff.1 h)⟩
  · rintro ⟨hlen, h⟩
    exact (List.subperm_of_subset (List.Nodup.of_map _ he)
      fun e h' => mem_of_get? (h e h')).perm_of_length_le hlen.ge

theorem get?_map {β : Type} (g : α → β) (es : Assoc α) (key : String) :
    get? (es.map fun e => (e.1, g e.2)) key = (es.get? key).map g := by
  induction es with
  | nil => rfl
  | cons e es ih =>
    rw [List.map_cons, get?, get?, ih]
    split <;> rfl

end Assoc

/-! ## Sameness -/

section Entries

variable {es fs : Document}

theorem canonicalEntries_eq_map (es : Document) :
    canonicalEntries es = es.map fun e => (e.1, e.2.canonical) := by
  induction es with
  | nil => rfl
  | cons e es ih => rw [canonicalEntries, ih, List.map_cons]

theorem keys_canonicalEntries (es : Document) :
    Assoc.keys (canonicalEntries es) = Assoc.keys es := by
  rw [canonicalEntries_eq_map, Assoc.keys, Assoc.keys, List.map_map]
  rfl

/-- Two documents have one canonical form exactly if each value has a partner in the other one. -/
theorem sorted_canonicalEntries_eq_iff (he : es.keys.Nodup) (hf : fs.keys.Nodup) :
    Assoc.sorted (canonicalEntries es) = Assoc.sorted (canonicalEntries fs) ↔
      es.length = fs.length ∧
        ∀ e ∈ es, ∃ w, fs.get? e.1 = some w ∧ e.2.canonical = w.canonical := by
  rw [← keys_canonicalEntries] at he hf
  rw [Assoc.sorted_eq_iff_perm he, Assoc.perm_iff_get? he hf, canonicalEntries_eq_map,
    canonicalEntries_eq_map, List.length_map, List.length_map, List.forall_mem_map]
  simp only [Assoc.get?_map, Option.map_eq_some_iff, eq_comm]

theorem same_iff_canonical_eq_mutual :
    (∀ v w : Value, v.keyed = true → w.keyed = true →
        (v.same w = true ↔ v.hasNaN = false ∧ v.canonical = w.canonical)) ∧
      (∀ es fs, entriesKeyed es = true → entriesKeyed fs = true →
        (sameEntries es fs = true ↔ entriesHaveNaN es = false ∧
          ∀ e ∈ es, ∃ w, Assoc.get? fs e.1 = some w ∧ e.2.canonical = w.canonical)) ∧
        ∀ xs ys, itemsKeyed xs = true → itemsKeyed ys = true →
          (sameItems xs ys = true ↔
            itemsHaveNaN xs = false ∧ canonicalItems xs = canonicalItems ys) := by
  apply Value.same.mutual_induct
  case case8 =>
    intro x y _ _
    rw [Value.same, Binary64.numericEq_iff, Value.hasNaN, Value.canonical, Value.canonical,
      Value.double.injEq]
  case case12 =>
    intro xs ys ih hx hy
    rw [Value.same, ih hx hy, Value.hasNaN, Value.canonical, Value.canonical, Value.array.injEq]
  case case13 =>
    intro es fs ih he hf
    rw [Value.keyed, Bool.and_eq_true, decide_eq_true_eq] at he hf
    rw [Value.same, Bool.and_eq_true, beq_iff_eq, ih he.2 hf.2, Value.hasNaN, Value.canonical,
      Value.canonical, Value.document.injEq, sorted_canonicalEntries_eq_iff he.1 hf.1]
    exact and_left_comm
  case case20 =>
    intro s es t fs ih he hf
    rw [Value.keyed, Bool.and_eq_true, decide_eq_true_eq] at he hf
    rw [Value.same, Bool.and_eq_true, Bool.and_eq_true, beq_iff_eq, beq_iff_eq, ih he.2 hf.2,
      Value.hasNaN, Value.canonical, Value.canonical, Value.codeWithScope.injEq,
      sorted_canonicalEntries_eq_iff he.1 hf.1]
    tauto
  case case22 => exact fun _ _ => by simp [sameItems, itemsHaveNaN]
  case case23 =>
    intro x xs y ys ihx ihxs hx hy
    rw [itemsKeyed, Bool.and_eq_true] at hx hy
    rw [sameItems, Bool.and_eq_true, ihx hx.1 hy.1, ihxs hx.2 hy.2, itemsHaveNaN,
      Bool.or_eq_false_iff, canonicalItems, canonicalItems, List.cons.injEq]
    tauto
  case case25 => exact fun _ _ _ => by simp [sameEntries, entriesHaveNaN]
  case case26 =>
    intro k v es fs ihv ihes he hf
    rw [entriesKeyed, Bool.and_eq_true] at he
    rw [sameEntries_cons, ihes he.2 hf, entriesHaveNaN, Bool.or_eq_false_iff, List.forall_mem_cons]
    constructor
    · rintro ⟨⟨w, hw, hvw⟩, hn, hes⟩
      obtain ⟨hnv, hcv⟩ := (ihv w he.1 (keyed_of_get? hf hw)).1 hvw
      exact ⟨⟨hnv, hn⟩, ⟨w, hw, hcv⟩, hes⟩
    · rintro ⟨⟨hnv, hn⟩, ⟨w, hw, hcv⟩, hes⟩
      exact ⟨⟨w, hw, (ihv w he.1 (keyed_of_get? hf hw)).2 ⟨hnv, hcv⟩⟩, hn, hes⟩
  case case24 =>
    intro xs ys hnil hcons _ _
    cases xs with
    | nil =>
      cases ys with
      | nil => exact (hnil rfl rfl).elim
      | cons y ys => simp [sameItems, canonicalItems]
    | cons x xs =>
      cases ys with
      | nil => simp [sameItems, canonicalItems]
      | cons y ys => exact (hcons x xs y ys rfl rfl).elim
  case case21 =>
    -- Values of two kinds are not the same, and neither are their canonical forms.
    intro v w
    intros
    constructor
    · intro h
      rw [Value.same] at h <;> first | contradiction | assumption
    · rintro ⟨-, h⟩
      cases v <;> cases w <;> first | (cases h; done) | grind
  all_goals
    intros
    simp [Value.same, Value.hasNaN, Value.canonical]

end Entries

/-- **Sameness is equality of canonical forms**, among values without NaN. -/
theorem KeyedValue.same_iff_canonical_eq (v w : KeyedValue) :
    v.value.same w.value = true ↔
      v.value.hasNaN = false ∧ v.value.canonical = w.value.canonical :=
  same_iff_canonical_eq_mutual.1 v.value w.value v.keyed w.keyed

/-- A document in its canonical form. -/
def Document.canonical (d : Document) : Document :=
  Assoc.sorted (canonicalEntries d)

theorem KeyedDocument.same_iff_canonical_eq (d e : KeyedDocument) :
    d.document.same e.document = true ↔
      d.document.hasNaN = false ∧ d.document.canonical = e.document.canonical := by
  refine (d.toValue.same_iff_canonical_eq e.toValue).trans (and_congr_right' ?_)
  rw [toValue, toValue, Value.canonical, Value.canonical, Value.document.injEq]
  rfl

end DocumentDb
