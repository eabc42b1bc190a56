import DocumentDb.Expression.Operator
import DocumentDb.Proofs.Result
import DocumentDb.Proofs.Value.Order

/-!
# How deeply the results of operators are nested

**Theorem (`Operator.cases_of_apply`).** What an operator gives is a scalar, or nested no more
deeply than one of its arguments, or the array of the entries of an argument, which is nested one
level more.
-/

namespace DocumentDb

/-! ## The depth of what is calculated -/

namespace Value

theorem depth_ofCount (n : Nat) : (ofCount n).depth = 0 := by
  rw [ofCount]
  split <;> rfl

theorem depth_combine (exact : Int → Int → Int) (rounded : Binary64 → Binary64 → Binary64)
    (v w : Value) : (combine exact rounded v w).depth = 0 := by
  fun_cases combine exact rounded v w <;> rfl

theorem depth_single (name : String) (v : Value) :
    (Value.document (Document.single name v)).depth = v.depth + 1 := by
  simp [depth, entriesDepth, Document.single]

theorem itemsDepth_entries (es : Document) :
    itemsDepth (es.map fun e => .document [("k", .string e.1), ("v", e.2)]) ≤
      entriesDepth es + 1 := by
  induction es with
  | nil => exact Nat.zero_le _
  | cons e es ih =>
    simp only [List.map_cons, itemsDepth, depth, entriesDepth] at *
    omega

theorem entriesDepth_insert (es : Document) (k : String) (v : Value) :
    entriesDepth (es.insert k v) ≤ max (entriesDepth es) v.depth := by
  induction es with
  | nil => simp [Assoc.insert, entriesDepth]
  | cons e es ih => grind [Assoc.insert, entriesDepth]

theorem depth_foldl {f : Value → Value → Value} (hf : ∀ v w, (f v w).depth = 0) (vs : List Value)
    {v : Value} (hv : v.depth = 0) : (vs.foldl f v).depth = 0 := by
  induction vs generalizing v with
  | nil => exact hv
  | cons w vs ih => exact ih (hf v w)

theorem depth_sum (vs : List Value) : (sum vs).depth = 0 :=
  depth_foldl (depth_combine _ _) vs rfl

theorem depth_product (vs : List Value) : (product vs).depth = 0 :=
  depth_foldl (depth_combine _ _) vs rfl

end Value

/-! ## The depth of what operators give -/

namespace Operator

variable {name : String} {args : List Value} {u v w : Value}

theorem single_eq_ok_iff : single name args = .ok v ↔ args = [v] := by
  fun_cases single name args <;> simp_all

theorem pair_eq_ok_iff : pair name args = .ok (v, w) ↔ args = [v, w] := by
  fun_cases pair name args <;> simp_all

theorem depth_of_size (h : size v = .ok u) : u.depth = 0 := by
  revert h
  fun_cases size v with
  | case1 items =>
    rintro ⟨⟩
    exact Value.depth_ofCount _
  | case2 => exact nofun

theorem mem_of_itemAt {items : List Value} {index : Int} (h : itemAt items index = some u) :
    u ∈ items := by
  simp only [itemAt, Option.ite_none_left_eq_some] at h
  exact List.mem_of_getElem? h.2

theorem depth_of_elementAt (h : elementAt v w = .ok (some u)) : u.depth ≤ v.depth := by
  revert h
  fun_cases elementAt v w with
  | case1 =>
    rintro ⟨⟩
    exact Nat.zero_le _
  | case2 items index =>
    intro h
    exact Nat.le_succ_of_le (Value.depth_le_itemsDepth (mem_of_itemAt (Except.ok.inj h)))
  | case3 => exact nofun

theorem eq_of_entries (h : entries v = .ok u) :
    u = .null ∨ ∃ es : Document, v = .document es ∧
      u = .array (es.map fun e => .document [("k", .string e.1), ("v", e.2)]) := by
  revert h
  fun_cases entries v with
  | case1 => exact fun h => .inl (Except.ok.inj h).symm
  | case2 es => exact fun h => .inr ⟨es, rfl, (Except.ok.inj h).symm⟩
  | case3 => exact nofun

theorem depth_of_calculate {fold : List Value → Value} (hf : ∀ vs, (fold vs).depth = 0)
    (h : calculate name fold args = .ok u) : u.depth = 0 := by
  revert h
  fun_cases calculate name fold args with
  | case1 =>
    rintro ⟨⟩
    rfl
  | case2 => exact nofun
  | case3 =>
    rintro ⟨⟩
    exact hf args

theorem depth_of_concat {joined : String} (h : concat joined args = .ok u) : u.depth = 0 := by
  induction joined, args using concat.induct with
  | case1 joined =>
    cases h
    rfl
  | case2 joined vs =>
    cases h
    rfl
  | case3 joined s vs ih => exact ih h
  | case4 joined v vs hn hs =>
    rw [concat] at h
    · cases h
    · exact hn
    · exact hs

theorem mem_of_ifNull (h : ifNull args = some u) : u ∈ args := by
  rw [ifNull, Option.or_eq_some_iff] at h
  rcases h with h | ⟨-, h⟩
  · exact List.mem_of_find?_eq_some h
  · exact List.mem_of_getLast? h

/-- What an operator gives is a scalar, or nested no more deeply than an argument, or the array of
the entries of an argument. -/
theorem cases_of_apply (h : apply name args = .ok (some u)) :
    u.depth = 0 ∨ (∃ v ∈ args, u.depth ≤ v.depth) ∨
      ∃ es : Document, .document es ∈ args ∧
        u = .array (es.map fun e => .document [("k", .string e.1), ("v", e.2)]) := by
  revert h
  fun_cases apply name args with
  | case1 =>
    simp only [bind_eq_ok_iff]
    rintro ⟨v, -, w, hw, ⟨⟩⟩
    exact .inl (depth_of_size hw)
  | case2 =>
    rw [bind_eq_ok_iff]
    rintro ⟨⟨v, w⟩, hp, hu⟩
    exact .inr (.inl ⟨v, by simp [pair_eq_ok_iff.1 hp], depth_of_elementAt hu⟩)
  | case3 =>
    simp only [bind_eq_ok_iff]
    rintro ⟨v, hs, w, hw, ⟨⟩⟩
    rcases eq_of_entries hw with rfl | ⟨es, rfl, rfl⟩
    · exact .inl rfl
    · exact .inr (.inr ⟨es, by simp [single_eq_ok_iff.1 hs], rfl⟩)
  | case4 =>
    rw [bind_pure_eq_ok_iff]
    rintro ⟨w, hw, ⟨⟩⟩
    exact .inl (depth_of_calculate Value.depth_sum hw)
  | case5 =>
    rw [bind_pure_eq_ok_iff]
    rintro ⟨w, hw, ⟨⟩⟩
    exact .inl (depth_of_calculate Value.depth_product hw)
  | case6 =>
    rw [bind_pure_eq_ok_iff]
    rintro ⟨w, hw, ⟨⟩⟩
    exact .inl (depth_of_concat hw)
  | case7 | case8 =>
    rw [bind_eq_ok_iff]
    rintro ⟨v, -, ⟨⟩⟩
    exact .inl rfl
  | case9 => exact fun h => .inr (.inl ⟨u, mem_of_ifNull (Except.ok.inj h), Nat.le_refl _⟩)
  | case10 =>
    rw [bind_eq_ok_iff]
    rintro ⟨⟨v, w⟩, -, ⟨⟩⟩
    exact .inl rfl
  | case11 => exact nofun

end Operator

end DocumentDb
