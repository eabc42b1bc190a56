import DocumentDb.Value.Order

/-!
# Laws of the order of values

Comparing two values the other way round turns the answer round (`Value.order_swap`), for all
kinds and at every depth. So no value is told apart from itself, and being alike is symmetric.

**Depth.** `Value.depth` counts how far arrays and documents are nested. Alike values have one
depth (`Value.depth_eq_of_alike`), so a value is never alike to one that it contains.
-/

namespace DocumentDb

namespace Value

/-! ## Brackets -/

theorem eq_array_of_bracket {v : Value} (h : v.bracket = 5) : ∃ items, v = array items := by
  cases v <;> simp_all [bracket]

theorem eq_document_of_bracket {v : Value} (h : v.bracket = 4) :
    ∃ entries, v = document entries := by
  cases v <;> simp_all [bracket]

/-! ## Scalars -/

theorem orderBytes_swap (xs ys : List UInt8) : (orderBytes xs ys).swap = orderBytes ys xs := by
  induction xs generalizing ys with
  | nil => cases ys <;> rfl
  | cons x xs ih =>
    cases ys with
    | nil => rfl
    | cons y ys =>
      rw [orderBytes, orderBytes, Ordering.swap_then, ih, ← Std.OrientedOrd.eq_swap]

theorem totalCompare_swap (x y : Binary64) : (x.totalCompare y).swap = y.totalCompare x :=
  Std.OrientedOrd.eq_swap.symm

theorem orderScalars_swap (v w : Value) : (v.orderScalars w).swap = w.orderScalars v := by
  fun_cases orderScalars v w with
  | case1 s t | case2 s t | case3 s t | case4 s t => exact Std.OrientedOrd.eq_swap.symm
  | case5 xs ys | case7 _ xs _ ys => exact orderBytes_swap xs ys
  | case6 s i t j =>
    rw [orderScalars, Ordering.swap_then, ← Std.OrientedOrd.eq_swap, ← Std.OrientedOrd.eq_swap]
  | case8 v w _ _ _ _ _ _ _ x y hx hy => rw [orderScalars, hx, hy] <;> grind [totalCompare_swap]
  | case9 =>
    -- One of the two is no number, on whichever side it stands.
    rw [orderScalars]
    · cases hv : v.asDouble? <;> cases hw : w.asDouble? <;> grind [Ordering.swap_eq]
    all_goals grind

/-! ## Turning a comparison round -/

theorem order_of_not_nested {v w : Value}
    (ha : ∀ xs ys, v = array xs → w = array ys → False)
    (hd : ∀ es fs, v = document es → w = document fs → False) :
    v.order w = (compare v.bracket w.bracket).then (v.orderScalars w) := by
  rw [order]
  · exact ha
  · exact hd

theorem order_swap_mutual :
    (∀ v w : Value, (v.order w).swap = w.order v) ∧
      (∀ es fs, (orderEntries es fs).swap = orderEntries fs es) ∧
        ∀ xs ys, (orderItems xs ys).swap = orderItems ys xs := by
  apply order.mutual_induct
  case case1 | case2 =>
    intro _ _ ih
    rwa [order, order]
  case case3 =>
    intro v w ha hd
    rw [order_of_not_nested ha hd, order_of_not_nested (fun xs ys h h' => ha ys xs h' h)
      fun es fs h h' => hd fs es h' h, Ordering.swap_then, orderScalars_swap,
      ← Std.OrientedOrd.eq_swap]
  case case7 =>
    intro x xs y ys ihx ihxs
    rw [orderItems, orderItems, Ordering.swap_then, ihx, ihxs]
  case case11 =>
    intro k v es l w fs ihv ihes
    rw [orderEntries, orderEntries, Ordering.swap_then, Ordering.swap_then, ihv, ihes,
      ← Std.OrientedOrd.eq_swap]
  all_goals intros; rfl

theorem order_swap (v w : Value) : (v.order w).swap = w.order v :=
  order_swap_mutual.1 v w

@[simp] theorem order_self (v : Value) : v.order v = .eq := by
  have h := order_swap v v
  cases hv : v.order v <;> simp_all

@[simp] theorem alike_self (v : Value) : v.alike v = true := by
  simp [alike]

theorem alike_comm (v w : Value) : v.alike w = w.alike v := by
  rw [alike, alike, ← order_swap v w]
  cases v.order w <;> rfl

/-! ## Depth -/

mutual

/-- How far arrays and documents are nested in a value. -/
def depth : Value → Nat
  | .array items => itemsDepth items + 1
  | .document entries => entriesDepth entries + 1
  | _ => 0

/-- The greatest depth of some items. -/
def itemsDepth : List Value → Nat
  | [] => 0
  | v :: vs => max v.depth (itemsDepth vs)

/-- The greatest depth of the values of some entries. -/
def entriesDepth : List (String × Value) → Nat
  | [] => 0
  | (_, v) :: es => max v.depth (entriesDepth es)

end

theorem depth_eq_zero {v : Value} (hd : v.bracket ≠ 4) (ha : v.bracket ≠ 5) : v.depth = 0 := by
  cases v <;> simp_all [bracket, depth]

theorem depth_le_itemsDepth {v : Value} {vs : List Value} (h : v ∈ vs) :
    v.depth ≤ itemsDepth vs := by
  induction vs with
  | nil => cases h
  | cons w vs ih => grind [itemsDepth]

theorem depth_eq_of_order_mutual :
    (∀ v w : Value, v.order w = .eq → v.depth = w.depth) ∧
      (∀ es fs, orderEntries es fs = .eq → entriesDepth es = entriesDepth fs) ∧
        ∀ xs ys, orderItems xs ys = .eq → itemsDepth xs = itemsDepth ys := by
  apply order.mutual_induct
  case case1 | case2 =>
    intro _ _ ih h
    rw [order] at h
    rw [depth, depth, ih h]
  case case3 =>
    intro v w ha hd h
    rw [order_of_not_nested ha hd, Ordering.then_eq_eq, Nat.compare_eq_eq] at h
    by_cases h5 : v.bracket = 5
    · obtain ⟨xs, rfl⟩ := eq_array_of_bracket h5
      obtain ⟨ys, rfl⟩ := eq_array_of_bracket (h.1 ▸ h5)
      exact (ha xs ys rfl rfl).elim
    by_cases h4 : v.bracket = 4
    · obtain ⟨es, rfl⟩ := eq_document_of_bracket h4
      obtain ⟨fs, rfl⟩ := eq_document_of_bracket (h.1 ▸ h4)
      exact (hd es fs rfl rfl).elim
    rw [depth_eq_zero h4 h5, depth_eq_zero (h.1 ▸ h4) (h.1 ▸ h5)]
  case case7 =>
    intro x xs y ys ihx ihxs h
    rw [orderItems, Ordering.then_eq_eq] at h
    rw [itemsDepth, itemsDepth, ihx h.1, ihxs h.2]
  case case11 =>
    intro k v es l w fs ihv ihes h
    rw [orderEntries, Ordering.then_eq_eq, Ordering.then_eq_eq] at h
    rw [entriesDepth, entriesDepth, ihv h.2.1, ihes h.2.2]
  all_goals intros; first | rfl | contradiction

theorem depth_eq_of_alike {v w : Value} (h : v.alike w = true) : v.depth = w.depth :=
  depth_eq_of_order_mutual.1 v w (by simpa [alike] using h)

/-- The order tells a value from all values that are nested less deeply. -/
theorem alike_eq_false_of_depth_lt {v w : Value} (h : w.depth < v.depth) : v.alike w = false := by
  cases ha : v.alike w with
  | false => rfl
  | true => exact absurd (depth_eq_of_alike ha) (Nat.ne_of_gt h)

end Value

end DocumentDb
