import DocumentDb.Value.Same

/-!
# Laws of sameness

Being the same is transitive (`Value.same_trans`). It is not reflexive, since a NaN differs from
itself.

For documents the argument goes through look-ups: an entry of the first document has a partner
under its key in the second, and that partner has one in the third.
-/

namespace DocumentDb

theorem Binary64.numericEq_trans {x y z : Binary64} (h : x.numericEq y = true)
    (h' : y.numericEq z = true) : x.numericEq z = true := by
  simp only [numericEq, Bool.and_eq_true, Bool.or_eq_true, beq_iff_eq] at h h' ⊢
  obtain ⟨⟨hx, -⟩, hxy⟩ := h
  obtain ⟨⟨-, hz⟩, hyz⟩ := h'
  refine ⟨⟨hx, hz⟩, ?_⟩
  rcases hxy with rfl | hxy
  · exact hyz
  · rcases hyz with rfl | hyz
    · exact Or.inr hxy
    · exact Or.inr ⟨hxy.1, hyz.2⟩

theorem sameEntries_cons (k : String) (v : Value) (es fs : List (String × Value)) :
    sameEntries ((k, v) :: es) fs = true ↔
      (∃ w, Assoc.get? fs k = some w ∧ v.same w = true) ∧ sameEntries es fs = true := by
  rw [sameEntries, Bool.and_eq_true]
  cases Assoc.get? fs k <;> simp

theorem exists_same_of_sameEntries {es fs : List (String × Value)} {k : String} {v : Value}
    (h : sameEntries es fs = true) (hv : Assoc.get? es k = some v) :
    ∃ w, Assoc.get? fs k = some w ∧ v.same w = true := by
  induction es with
  | nil => cases hv
  | cons e es ih =>
    rw [sameEntries_cons] at h
    by_cases hk : e.1 = k
    · rw [Assoc.get?, if_pos hk] at hv
      cases hv
      exact hk ▸ h.1
    · rw [Assoc.get?, if_neg hk] at hv
      exact ih h.2 hv

theorem same_trans_mutual :
    (∀ u v : Value, ∀ w, u.same v = true → v.same w = true → u.same w = true) ∧
      (∀ es fs, ∀ gs, sameEntries es fs = true → sameEntries fs gs = true →
        sameEntries es gs = true) ∧
        ∀ xs ys, ∀ zs, sameItems xs ys = true → sameItems ys zs = true →
          sameItems xs zs = true := by
  apply Value.same.mutual_induct
  case case8 =>
    intro x y w h h'
    cases w with
    | double z => exact Binary64.numericEq_trans h h'
    | _ => cases h'
  case case12 =>
    intro xs ys ih w h h'
    cases w with
    | array zs => exact ih zs h h'
    | _ => cases h'
  case case13 =>
    intro es fs ih w h h'
    cases w with
    | document gs =>
      simp only [Value.same, Bool.and_eq_true, beq_iff_eq] at h h' ⊢
      exact ⟨h.1.trans h'.1, ih gs h.2 h'.2⟩
    | _ => cases h'
  case case20 =>
    intro s es t fs ih w h h'
    cases w with
    | codeWithScope r gs =>
      simp only [Value.same, Bool.and_eq_true, beq_iff_eq] at h h' ⊢
      exact ⟨⟨h.1.1.trans h'.1.1, h.1.2.trans h'.1.2⟩, ih gs h.2 h'.2⟩
    | _ => cases h'
  case case21 =>
    -- Values of two kinds are not the same.
    intro u v
    intros
    rename_i w h _
    rw [Value.same] at h <;> first | contradiction | assumption
  case case22 => exact fun _ _ h' => h'
  case case23 =>
    intro x xs y ys ihx ihxs zs h h'
    cases zs with
    | nil => cases h'
    | cons z zs =>
      simp only [sameItems, Bool.and_eq_true] at h h' ⊢
      exact ⟨ihx z h.1 h'.1, ihxs zs h.2 h'.2⟩
  case case24 =>
    intro xs ys _ _ zs h
    rw [sameItems] at h <;> first | contradiction | assumption
  case case25 => exact fun _ _ _ _ => rfl
  case case26 =>
    intro k v es fs ihv ihes gs h h'
    rw [sameEntries_cons] at h ⊢
    obtain ⟨⟨w, hw, hvw⟩, hes⟩ := h
    obtain ⟨u, hu, hwu⟩ := exists_same_of_sameEntries h' hw
    exact ⟨⟨u, hu, ihv w u hvw hwu⟩, ihes gs hes h'⟩
  -- A scalar other than a double is the same as itself only.
  all_goals
    intros
    rename_i w h h'
    cases w <;> simp_all [Value.same]

theorem Value.same_trans {u v w : Value} (h : u.same v = true) (h' : v.same w = true) :
    u.same w = true :=
  same_trans_mutual.1 u v w h h'

theorem Document.same_trans {d e f : Document} (h : d.same e = true) (h' : e.same f = true) :
    d.same f = true :=
  Value.same_trans h h'

end DocumentDb
