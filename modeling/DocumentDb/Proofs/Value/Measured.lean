import DocumentDb.Proofs.Value.Order

/-!
# Where the order of values is transitive

A decimal has no common measure with the other numbers, and a symbol none with strings. The order
does not tell a decimal from any number, although it tells numbers from one another, so it is not
transitive on all values.

**Measured values** (`Value.measured`) hold no decimal and no symbol, at any depth.

**Theorem (`order_transitive_iff_measured`).** The order is reflexive and turns round with its
arguments on all values. It is transitive on measured values, and no other value can stand between
measured ones without breaking that. The same holds of being alike.

The induction compares three values at once. Its invariant (`Composes`) says how the three answers
fit together, and it passes from the parts of a lexicographic comparison to the whole.
-/

namespace DocumentDb

/-! ## Three comparisons -/

/-- The answers for `u` and `v`, for `v` and `w`, and for `u` and `w` fit together. -/
structure Composes (uv vw uw : Ordering) : Prop where
  of_left : uv = .eq → uw = vw
  of_right : vw = .eq → uw = uv
  of_both : uv = vw → uw = uv

namespace Composes

variable {uv vw uw uv' vw' uw' : Ordering}

theorem of_transOrd {α : Type} [Ord α] [Std.TransOrd α] (x y z : α) :
    Composes (compare x y) (compare y z) (compare x z) where
  of_left h := Std.TransCmp.congr_left h
  of_right h := (Std.TransCmp.congr_right h).symm
  of_both h := by
    cases hxy : compare x y with
    | lt => exact Std.TransCmp.lt_trans hxy (h ▸ hxy)
    | eq => exact Std.TransCmp.eq_trans hxy (h ▸ hxy)
    | gt => exact Std.TransCmp.gt_trans hxy (h ▸ hxy)

theorem of_eq : Composes .eq .eq .eq :=
  ⟨fun _ => rfl, fun _ => rfl, fun _ => rfl⟩

/-- The second comparisons count only where the first ones tell nothing apart. -/
theorem lex (h : Composes uv vw uw) (h' : uv = .eq → vw = .eq → Composes uv' vw' uw') :
    Composes (uv.then uv') (vw.then vw') (uw.then uw') := by
  obtain ⟨hl, hr, hb⟩ := h
  cases uv <;> cases vw <;> simp_all <;> constructor <;> simp_all

/-- Lists compose if their items do. -/
theorem compareLex {α : Type} {cmp : α → α → Ordering} {xs ys zs : List α}
    (h : ∀ x ∈ xs, ∀ y ∈ ys, ∀ z ∈ zs, Composes (cmp x y) (cmp y z) (cmp x z)) :
    Composes (xs.compareLex cmp ys) (ys.compareLex cmp zs) (xs.compareLex cmp zs) := by
  induction xs generalizing ys zs with
  | nil => cases ys <;> cases zs <;> constructor <;> simp [List.compareLex]
  | cons x xs ih =>
    cases ys with
    | nil => cases zs <;> constructor <;> simp [List.compareLex]
    | cons y ys =>
      cases zs with
      | nil => exact ⟨fun _ => rfl, (nomatch ·), Eq.symm⟩
      | cons z zs =>
        simp only [List.compareLex_cons_cons]
        refine (h x (by simp) y (by simp) z (by simp)).lex fun _ _ => ih fun x hx y hy z hz => ?_
        exact h x (.tail _ hx) y (.tail _ hy) z (.tail _ hz)

/-- Both comparisons turned round, they are put together the other way. -/
theorem reverse (h : Composes uv vw uw) : Composes vw uv uw where
  of_left := h.of_right
  of_right := h.of_left
  of_both hv := (h.of_both hv.symm).trans hv.symm

theorem isLE (h : Composes uv vw uw) (huv : uv.isLE = true) (hvw : vw.isLE = true) :
    uw.isLE = true := by
  obtain ⟨hl, hr, hb⟩ := h
  cases uv <;> cases vw <;> simp_all

theorem lt_of_isLE (h : Composes uv vw uw) (huv : uv.isLE = true) (hvw : vw = .lt) : uw = .lt := by
  cases huv' : uv with
  | lt => exact (h.of_both (huv'.trans hvw.symm)).trans huv'
  | eq => exact (h.of_left huv').trans hvw
  | gt =>
    rw [huv'] at huv
    cases huv

theorem eq (h : Composes uv vw uw) (huv : uv = .eq) (hvw : vw = .eq) : uw = .eq :=
  (h.of_left huv).trans hvw

end Composes

/-! ## Measured values -/

mutual

/-- Whether no decimal and no symbol stands in a value. -/
def Value.measured : Value → Bool
  | .decimal _ | .symbol _ => false
  | .array items => measuredItems items
  | .document entries => measuredEntries entries
  | _ => true

/-- Whether all items are measured. -/
def measuredItems : List Value → Bool
  | [] => true
  | v :: vs => v.measured && measuredItems vs

/-- Whether the values of all entries are measured. -/
def measuredEntries : List (String × Value) → Bool
  | [] => true
  | (_, v) :: es => v.measured && measuredEntries es

end

namespace Value

variable {u v w : Value}

/-! ## Kinds by their brackets -/

/-- Every number among the measured values is compared as a double. -/
theorem exists_asDouble?_of_bracket (hv : v.measured = true) (h : v.bracket = 2) :
    ∃ x, v.asDouble? = some x := by
  cases v <;> simp_all [measured, bracket, asDouble?]

theorem eq_string_of_bracket (hv : v.measured = true) (h : v.bracket = 3) :
    ∃ s, v = string s := by
  cases v <;> simp_all [measured, bracket]

theorem eq_binary_of_bracket (h : v.bracket = 6) : ∃ k bytes, v = binary k bytes := by
  cases v <;> simp_all [bracket]

theorem eq_objectId_of_bracket (h : v.bracket = 7) : ∃ bytes, v = objectId bytes := by
  cases v <;> simp_all [bracket]

theorem eq_bool_of_bracket (h : v.bracket = 8) : ∃ b, v = bool b := by
  cases v <;> simp_all [bracket]

theorem eq_dateTime_of_bracket (h : v.bracket = 9) : ∃ millis, v = dateTime millis := by
  cases v <;> simp_all [bracket]

theorem eq_timestamp_of_bracket (h : v.bracket = 10) : ∃ s i, v = timestamp s i := by
  cases v <;> simp_all [bracket]

/-- The brackets of the scalars that are told apart by a measure. -/
def scales : List Nat := [2, 3, 6, 7, 8, 9, 10]

theorem orderScalars_of_bracket (h : v.bracket ∉ scales) : v.orderScalars w = .eq := by
  cases v <;> first | rfl | exact absurd (by simp [bracket, scales]) h

theorem orderScalars_of_asDouble? {x y : Binary64} (hv : v.asDouble? = some x)
    (hw : w.asDouble? = some y) : v.orderScalars w = x.totalCompare y := by
  rw [orderScalars, hv, hw] <;> intros <;> simp_all [asDouble?]

/-! ## Scalars -/

theorem orderBytes_eq_compareLex (xs ys : List UInt8) :
    orderBytes xs ys = xs.compareLex (fun x y => compare x.toNat y.toNat) ys := by
  induction xs generalizing ys with
  | nil => cases ys <;> rfl
  | cons x xs ih =>
    cases ys with
    | nil => rfl
    | cons y ys => rw [orderBytes, List.compareLex_cons_cons, ih]

theorem composes_orderBytes (xs ys zs : List UInt8) :
    Composes (orderBytes xs ys) (orderBytes ys zs) (orderBytes xs zs) := by
  simp only [orderBytes_eq_compareLex]
  exact .compareLex fun x _ y _ z _ => .of_transOrd x.toNat y.toNat z.toNat

theorem composes_orderScalars (hu : u.measured = true) (hv : v.measured = true)
    (hw : w.measured = true) (huv : u.bracket = v.bracket) (hvw : v.bracket = w.bracket) :
    Composes (u.orderScalars v) (v.orderScalars w) (u.orderScalars w) := by
  by_cases hs : u.bracket ∈ scales
  · -- One case for each scale, and all three values are of one kind.
    simp only [scales, List.mem_cons, List.not_mem_nil, or_false] at hs
    rcases hs with h | h | h | h | h | h | h
    · obtain ⟨x, hx⟩ := exists_asDouble?_of_bracket hu h
      obtain ⟨y, hy⟩ := exists_asDouble?_of_bracket hv (huv ▸ h)
      obtain ⟨z, hz⟩ := exists_asDouble?_of_bracket hw (hvw ▸ huv ▸ h)
      rw [orderScalars_of_asDouble? hx hy, orderScalars_of_asDouble? hy hz,
        orderScalars_of_asDouble? hx hz]
      exact .of_transOrd x.rank y.rank z.rank
    · obtain ⟨r, rfl⟩ := eq_string_of_bracket hu h
      obtain ⟨s, rfl⟩ := eq_string_of_bracket hv (huv ▸ h)
      obtain ⟨t, rfl⟩ := eq_string_of_bracket hw (hvw ▸ huv ▸ h)
      exact .of_transOrd r s t
    · obtain ⟨_, xs, rfl⟩ := eq_binary_of_bracket h
      obtain ⟨_, ys, rfl⟩ := eq_binary_of_bracket (huv ▸ h)
      obtain ⟨_, zs, rfl⟩ := eq_binary_of_bracket (hvw ▸ huv ▸ h)
      exact composes_orderBytes xs ys zs
    · obtain ⟨xs, rfl⟩ := eq_objectId_of_bracket h
      obtain ⟨ys, rfl⟩ := eq_objectId_of_bracket (huv ▸ h)
      obtain ⟨zs, rfl⟩ := eq_objectId_of_bracket (hvw ▸ huv ▸ h)
      exact composes_orderBytes xs ys zs
    · obtain ⟨a, rfl⟩ := eq_bool_of_bracket h
      obtain ⟨b, rfl⟩ := eq_bool_of_bracket (huv ▸ h)
      obtain ⟨c, rfl⟩ := eq_bool_of_bracket (hvw ▸ huv ▸ h)
      exact .of_transOrd a.toNat b.toNat c.toNat
    · obtain ⟨l, rfl⟩ := eq_dateTime_of_bracket h
      obtain ⟨m, rfl⟩ := eq_dateTime_of_bracket (huv ▸ h)
      obtain ⟨n, rfl⟩ := eq_dateTime_of_bracket (hvw ▸ huv ▸ h)
      exact .of_transOrd l.toInt m.toInt n.toInt
    · obtain ⟨r, i, rfl⟩ := eq_timestamp_of_bracket h
      obtain ⟨s, j, rfl⟩ := eq_timestamp_of_bracket (huv ▸ h)
      obtain ⟨t, k, rfl⟩ := eq_timestamp_of_bracket (hvw ▸ huv ▸ h)
      exact (Composes.of_transOrd r.toNat s.toNat t.toNat).lex fun _ _ =>
        .of_transOrd i.toNat j.toNat k.toNat
  · rw [orderScalars_of_bracket hs, orderScalars_of_bracket hs,
      orderScalars_of_bracket (huv ▸ hs)]
    exact .of_eq

/-! ## Arrays and documents -/

theorem orderItems_eq_compareLex (xs ys : List Value) :
    orderItems xs ys = xs.compareLex order ys := by
  induction xs generalizing ys with
  | nil => cases ys <;> rfl
  | cons x xs ih =>
    cases ys with
    | nil => rfl
    | cons y ys => rw [orderItems, List.compareLex_cons_cons, ih]

/-- Compares two entries by their keys and then by their values. -/
def orderEntry (e f : String × Value) : Ordering :=
  (compare e.1 f.1).then (e.2.order f.2)

theorem orderEntries_eq_compareLex (es fs : List (String × Value)) :
    orderEntries es fs = es.compareLex orderEntry fs := by
  induction es generalizing fs with
  | nil => cases fs <;> rfl
  | cons e es ih =>
    cases fs with
    | nil => rfl
    | cons f fs =>
      rw [orderEntries, List.compareLex_cons_cons, ih, orderEntry, Ordering.then_assoc]

theorem measured_of_mem_items {vs : List Value} (h : measuredItems vs = true) (hv : v ∈ vs) :
    v.measured = true := by
  induction vs with
  | nil => cases hv
  | cons w vs ih => grind [measuredItems]

theorem measured_of_mem_entries {es : List (String × Value)} {e : String × Value}
    (h : measuredEntries es = true) (he : e ∈ es) : e.2.measured = true := by
  induction es with
  | nil => cases he
  | cons f es ih => grind [measuredEntries]

theorem depth_le_entriesDepth {es : List (String × Value)} {e : String × Value} (h : e ∈ es) :
    e.2.depth ≤ entriesDepth es := by
  induction es with
  | nil => cases h
  | cons f es ih => grind [entriesDepth]

/-- Compares two values of one bracket by what they hold. -/
def orderContent : Value → Value → Ordering
  | array xs, array ys => xs.compareLex order ys
  | document es, document fs => es.compareLex orderEntry fs
  | v, w => v.orderScalars w

theorem order_eq_bracket_then (v w : Value) :
    v.order w = (compare v.bracket w.bracket).then (v.orderContent w) := by
  fun_cases orderContent v w with
  | case1 xs ys =>
    rw [order, orderItems_eq_compareLex]
    rfl
  | case2 es fs =>
    rw [order, orderEntries_eq_compareLex]
    rfl
  | case3 v w ha hd => exact order_of_not_nested ha hd

theorem orderContent_of_bracket (h5 : v.bracket ≠ 5) (h4 : v.bracket ≠ 4) :
    v.orderContent w = v.orderScalars w := by
  cases v <;> first | rfl | contradiction

/-- **Three measured values** are compared without contradiction. -/
theorem composes_order (hu : u.measured = true) (hv : v.measured = true)
    (hw : w.measured = true) : Composes (u.order v) (v.order w) (u.order w) := by
  -- Induction on the depth of the first value, which nests what is compared inside it.
  induction hn : u.depth using Nat.strongRecOn generalizing u v w with
  | ind n ih =>
    subst hn
    simp only [order_eq_bracket_then]
    refine (Composes.of_transOrd _ _ _).lex fun huv hvw => ?_
    rw [Nat.compare_eq_eq] at huv hvw
    by_cases h5 : u.bracket = 5
    · obtain ⟨xs, rfl⟩ := eq_array_of_bracket h5
      obtain ⟨ys, rfl⟩ := eq_array_of_bracket (huv ▸ h5)
      obtain ⟨zs, rfl⟩ := eq_array_of_bracket (hvw ▸ huv ▸ h5)
      exact .compareLex fun x hx y hy z hz =>
        ih x.depth (Nat.lt_succ_of_le (depth_le_itemsDepth hx)) (measured_of_mem_items hu hx)
          (measured_of_mem_items hv hy) (measured_of_mem_items hw hz) rfl
    by_cases h4 : u.bracket = 4
    · obtain ⟨es, rfl⟩ := eq_document_of_bracket h4
      obtain ⟨fs, rfl⟩ := eq_document_of_bracket (huv ▸ h4)
      obtain ⟨gs, rfl⟩ := eq_document_of_bracket (hvw ▸ huv ▸ h4)
      exact .compareLex fun e he f hf g hg => (Composes.of_transOrd e.1 f.1 g.1).lex fun _ _ =>
        ih e.2.depth (Nat.lt_succ_of_le (depth_le_entriesDepth he)) (measured_of_mem_entries hu he)
          (measured_of_mem_entries hv hf) (measured_of_mem_entries hw hg) rfl
    rw [orderContent_of_bracket h5 h4, orderContent_of_bracket (huv ▸ h5) (huv ▸ h4),
      orderContent_of_bracket h5 h4]
    exact composes_orderScalars hu hv hw huv hvw

/-! ## Values that are not measured -/

mutual

/-- The value with a number in the place of each decimal and a string in that of each symbol. -/
def fill (n : Int32) (s : String) : Value → Value
  | .decimal _ => .int32 n
  | .symbol _ => .string s
  | .array items => .array (fillItems n s items)
  | .document entries => .document (fillEntries n s entries)
  | v => v

/-- The items with their decimals and symbols filled in. -/
def fillItems (n : Int32) (s : String) : List Value → List Value
  | [] => []
  | v :: vs => v.fill n s :: fillItems n s vs

/-- The entries with the decimals and symbols of their values filled in. -/
def fillEntries (n : Int32) (s : String) : List (String × Value) → List (String × Value)
  | [] => []
  | (k, v) :: es => (k, v.fill n s) :: fillEntries n s es

end

theorem fill_mutual (n : Int32) (s : String) :
    (∀ v : Value, (v.fill n s).measured = true ∧ (v.fill n s).order v = .eq) ∧
      (∀ es, measuredEntries (fillEntries n s es) = true ∧
        orderEntries (fillEntries n s es) es = .eq) ∧
        ∀ vs, measuredItems (fillItems n s vs) = true ∧ orderItems (fillItems n s vs) vs = .eq := by
  apply measured.mutual_induct
  case case1 | case2 => exact fun _ => ⟨rfl, rfl⟩
  case case3 =>
    intro items ih
    rwa [fill, measured, order]
  case case4 =>
    intro entries ih
    rwa [fill, measured, order]
  case case5 =>
    intro v hd hs ha he
    rw [fill, measured] <;> simp_all
  case case6 | case8 => exact ⟨rfl, rfl⟩
  case case7 =>
    intro v vs ihv ihvs
    rw [fillItems, measuredItems, orderItems, ihv.1, ihv.2]
    exact ihvs
  case case9 =>
    intro k v es ihv ihes
    rw [fillEntries, measuredEntries, orderEntries, ihv.1, ihv.2, Std.ReflOrd.compare_self]
    exact ihes

theorem measured_fill (n : Int32) (s : String) (v : Value) : (v.fill n s).measured = true :=
  ((fill_mutual n s).1 v).1

theorem order_fill (n : Int32) (s : String) (v : Value) : (v.fill n s).order v = .eq :=
  ((fill_mutual n s).1 v).2

/-- A value is told from itself by what its decimals and symbols are filled in with. -/
theorem order_fill_fill_mutual :
    (∀ v : Value, (v.fill 2 "b").order (v.fill 1 "a") = if v.measured then .eq else .gt) ∧
      (∀ es, orderEntries (fillEntries 2 "b" es) (fillEntries 1 "a" es) =
        if measuredEntries es then .eq else .gt) ∧
        ∀ vs, orderItems (fillItems 2 "b" vs) (fillItems 1 "a" vs) =
          if measuredItems vs then .eq else .gt := by
  apply measured.mutual_induct
  case case1 =>
    intro text
    show (int32 2).order (int32 1) = .gt
    decide
  case case2 =>
    intro text
    show (string "b").order (string "a") = .gt
    decide
  case case3 =>
    intro items ih
    rwa [fill, fill, measured, order]
  case case4 =>
    intro entries ih
    rwa [fill, fill, measured, order]
  case case5 =>
    intro v hd hs ha he
    rw [fill, fill, measured] <;> simp_all
  case case6 | case8 => rfl
  case case7 =>
    intro v vs ihv ihvs
    rw [fillItems, fillItems, measuredItems, orderItems, ihv, ihvs]
    cases v.measured <;> rfl
  case case9 =>
    intro k v es ihv ihes
    rw [fillEntries, fillEntries, measuredEntries, orderEntries, ihv, ihes,
      Std.ReflOrd.compare_self]
    cases v.measured <;> rfl

/-! ## The order -/

/-- A value that is not measured is alike to two measured ones that are told apart. -/
theorem exists_alike_of_not_measured (h : v.measured = false) :
    ∃ u w : Value, u.measured = true ∧ w.measured = true ∧ u.order v = .eq ∧ v.order w = .eq ∧
      u.order w = .gt := by
  refine ⟨v.fill 2 "b", v.fill 1 "a", measured_fill .., measured_fill .., order_fill .., ?_, ?_⟩
  · rw [← order_swap, order_fill]
    rfl
  · rw [order_fill_fill_mutual.1 v, h]
    rfl

theorem measured_of_isLE_trans (h : ∀ u w : Value, u.measured = true → w.measured = true →
    (u.order v).isLE = true → (v.order w).isLE = true → (u.order w).isLE = true) :
    v.measured = true := by
  cases hv : v.measured with
  | true => rfl
  | false =>
    obtain ⟨u, w, hu, hw, huv, hvw, huw⟩ := exists_alike_of_not_measured hv
    have hle := h u w hu hw (by rw [huv]; rfl) (by rw [hvw]; rfl)
    rw [huw] at hle
    cases hle

theorem measured_of_alike_trans (h : ∀ u w : Value, u.measured = true → w.measured = true →
    u.alike v = true → v.alike w = true → u.alike w = true) : v.measured = true := by
  cases hv : v.measured with
  | true => rfl
  | false =>
    obtain ⟨u, w, hu, hw, huv, hvw, huw⟩ := exists_alike_of_not_measured hv
    have ha := h u w hu hw (by rw [alike, huv]; rfl) (by rw [alike, hvw]; rfl)
    rw [alike, huw] at ha
    cases ha

theorem alike_trans (hu : u.measured = true) (hv : v.measured = true) (hw : w.measured = true)
    (huv : u.alike v = true) (hvw : v.alike w = true) : u.alike w = true := by
  simp only [alike, beq_iff_eq] at huv hvw ⊢
  exact (composes_order hu hv hw).eq huv hvw

/-- **Where the order is transitive.** At any value it is reflexive and turns round with its
arguments. With the value in the middle of measured ones it is transitive, as is being alike,
exactly if the value is measured. -/
theorem order_transitive_iff_measured (v : Value) :
    (v.order v = .eq ∧ v.alike v = true) ∧
    (∀ w : Value, w.order v = (v.order w).swap ∧ w.alike v = v.alike w) ∧
    (v.measured = true ↔ ∀ u w : Value, u.measured = true → w.measured = true →
      (u.order v).isLE = true → (v.order w).isLE = true → (u.order w).isLE = true) ∧
    (v.measured = true ↔ ∀ u w : Value, u.measured = true → w.measured = true →
      u.alike v = true → v.alike w = true → u.alike w = true) :=
  ⟨⟨order_self v, alike_self v⟩,
    fun w => ⟨(order_swap v w).symm, alike_comm w v⟩,
    ⟨fun hv _ _ hu hw => (composes_order hu hv hw).isLE, measured_of_isLE_trans⟩,
    ⟨fun hv _ _ hu hw => alike_trans hu hv hw, measured_of_alike_trans⟩⟩

/-- A decimal is alike to two numbers that are told apart, so neither is transitive on all
values. -/
theorem order_not_transitive_at_decimal :
    (¬ ∀ u v w : Value, (u.order v).isLE = true → (v.order w).isLE = true →
      (u.order w).isLE = true) ∧
    ¬ ∀ u v w : Value, u.alike v = true → v.alike w = true → u.alike w = true :=
  ⟨fun h => absurd (h (.int32 2) (.decimal "1") (.int32 1) rfl rfl) (by decide),
    fun h => absurd (h (.int32 2) (.decimal "1") (.int32 1) rfl rfl) (by decide)⟩

end Value

end DocumentDb
