import DocumentDb.Proofs.Pipeline.Group
import DocumentDb.Proofs.Value.Measured
import Mathlib.Data.List.Induction
import Mathlib.Data.List.ReduceOption

/-!
# What accumulators gather

An accumulator takes the values of its argument one by one and keeps little of them. What it has in
the end is told here by all values at once (`Accumulator.gather`).

**Extremes** (`foremost`). The least value is the first one that none goes before, among those that
stand for a value (`counted`), and the greatest one the same with the order turned round. A value
that comes last takes the place of the foremost one so far exactly if it goes before it
(`foremost_concat`), which is what the accumulator does.

**Sets** (`firstOccurrences`). The values to which none before them is alike. The accumulator
compares only with those that it has kept, and comes to the same since being alike is transitive.

**Theorem (`extremes_and_sets_gathered`).** Over measured values the three accumulators gather the
foremost values and the first occurrences.
-/

namespace DocumentDb

variable {wanted : Ordering} {u v w : Value} {vs : List Value}

/-! ## Extremes -/

/-- Whether a value compares as asked with each of some values, or is not told from it. -/
def leads (wanted : Ordering) (vs : List Value) (v : Value) : Bool :=
  vs.all fun w => v.order w = wanted || v.order w = .eq

/-- The first of some values that leads them. -/
def foremost (wanted : Ordering) (vs : List Value) : Option Value :=
  vs.find? (leads wanted vs)

theorem leads_iff :
    leads wanted vs v = true ↔ ∀ w ∈ vs, v.order w = wanted ∨ v.order w = .eq := by
  simp [leads]

theorem leads_concat_iff :
    leads wanted (vs ++ [w]) v = true ↔
      leads wanted vs v = true ∧ (v.order w = wanted ∨ v.order w = .eq) := by
  simp [leads_iff, or_imp, forall_and]

/-- What does not compare as asked does so the other way round, or is not told apart. -/
theorem Value.order_ne_iff (hw : wanted ≠ .eq) :
    v.order w ≠ wanted ↔ w.order v = wanted ∨ w.order v = .eq := by
  rw [← Value.order_swap v w]
  cases wanted <;> cases v.order w <;> simp_all

/-- A value that goes before the foremost one goes before all. -/
theorem order_eq_of_leads (hm : ∀ u ∈ vs, u.measured = true) (hv : v.measured = true)
    (hw : w ∈ vs) (hlead : leads wanted vs w = true) (h : v.order w = wanted) (hu : u ∈ vs) :
    v.order u = wanted := by
  have hc := Value.composes_order hv (hm w hw) (hm u hu)
  rcases leads_iff.1 hlead u hu with hwu | hwu
  · exact (hc.of_both (h.trans hwu.symm)).trans h
  · exact (hc.of_right hwu).trans h

/-- One more value comes in the place of the foremost one exactly if it goes before it. -/
theorem foremost_concat (hwanted : wanted ≠ .eq) (hm : ∀ u ∈ vs, u.measured = true)
    (hv : v.measured = true) (h : foremost wanted vs = some w) :
    foremost wanted (vs ++ [v]) = some (if v.order w = wanted then v else w) := by
  obtain ⟨hlead, before, after, hvs, hb⟩ := List.find?_eq_some_iff_append.1 h
  have hmem : w ∈ vs := List.mem_of_find?_eq_some h
  rw [foremost, List.find?_eq_some_iff_append]
  split
  · next hvw =>
    have hall (u) (hu : u ∈ vs) : v.order u = wanted := order_eq_of_leads hm hv hmem hlead hvw hu
    have hlead' : leads wanted vs v = true := leads_iff.2 fun u hu => .inl (hall u hu)
    refine ⟨leads_concat_iff.2 ⟨hlead', .inr (Value.order_self v)⟩, vs, [], rfl, fun u hu => ?_⟩
    rw [Bool.not_eq_true', Bool.eq_false_iff, Ne, leads_concat_iff, ← Value.order_ne_iff hwanted]
    exact fun hn => hn.2 (hall u hu)
  · next hvw =>
    refine ⟨leads_concat_iff.2 ⟨hlead, (Value.order_ne_iff hwanted).1 hvw⟩,
      before, after ++ [v], by rw [hvs]; simp, fun u hu => ?_⟩
    rw [Bool.not_eq_true', Bool.eq_false_iff, Ne, leads_concat_iff]
    exact fun hn => absurd hn.1 (by simpa using hb u hu)

theorem foremost_singleton (wanted : Ordering) (v : Value) : foremost wanted [v] = some v := by
  simp [foremost, leads]

theorem exists_foremost (hwanted : wanted ≠ .eq) (hm : ∀ u ∈ vs, u.measured = true)
    (hne : vs ≠ []) : ∃ v, foremost wanted vs = some v := by
  induction vs using List.reverseRecOn with
  | nil => exact (hne rfl).elim
  | append_singleton vs v ih =>
    by_cases hvs : vs = []
    · subst hvs
      exact ⟨v, foremost_singleton wanted v⟩
    · have hm' (u) (hu : u ∈ vs) : u.measured = true := hm u (List.mem_append_left _ hu)
      obtain ⟨w, hw⟩ := ih hm' hvs
      exact ⟨_, foremost_concat hwanted hm' (hm v (by simp)) hw⟩

/-! ## Sets -/

/-- The values to which none of some seen ones is alike, and none before them. -/
def unseen (seen : List Value) : List Value → List Value
  | [] => []
  | v :: vs =>
    if seen.any (·.alike v) then unseen (seen ++ [v]) vs else v :: unseen (seen ++ [v]) vs

/-- The values to which no value before them is alike. -/
def firstOccurrences (vs : List Value) : List Value :=
  unseen [] vs

theorem unseen_concat (seen vs : List Value) (v : Value) :
    unseen seen (vs ++ [v]) =
      if (seen ++ vs).any (·.alike v) then unseen seen vs else unseen seen vs ++ [v] := by
  induction vs generalizing seen with
  | nil => simp [unseen]
  | cons w vs ih =>
    have hs : (seen ++ w :: vs).any (·.alike v) = (seen ++ [w] ++ vs).any (·.alike v) := by simp
    rw [List.cons_append, unseen, unseen, ih, hs]
    split <;> split <;> rfl

theorem firstOccurrences_concat (vs : List Value) (v : Value) :
    firstOccurrences (vs ++ [v]) =
      if vs.any (·.alike v) then firstOccurrences vs else firstOccurrences vs ++ [v] :=
  unseen_concat [] vs v

theorem unseen_sublist (seen vs : List Value) : (unseen seen vs).Sublist vs := by
  induction vs generalizing seen with
  | nil => exact .slnil
  | cons v vs ih =>
    rw [unseen]
    split
    · exact (ih _).cons v
    · exact (ih _).cons_cons v

theorem mem_of_mem_firstOccurrences (h : v ∈ firstOccurrences vs) : v ∈ vs :=
  (unseen_sublist [] vs).subset h

theorem pairwise_firstOccurrences (vs : List Value) :
    (firstOccurrences vs).Pairwise fun v w => v.alike w = false := by
  induction vs using List.reverseRecOn with
  | nil => exact .nil
  | append_singleton vs v ih =>
    rw [firstOccurrences_concat]
    split
    · exact ih
    · next hv =>
      rw [List.pairwise_append]
      refine ⟨ih, List.pairwise_singleton .., fun u hu w hw => ?_⟩
      rw [List.mem_singleton.1 hw]
      rw [Bool.not_eq_true, List.any_eq_false] at hv
      simpa using hv u (mem_of_mem_firstOccurrences hu)

/-- Each value is alike to a first occurrence, by transitivity. -/
theorem exists_alike_firstOccurrences (hm : ∀ u ∈ vs, u.measured = true) (h : v ∈ vs) :
    ∃ w ∈ firstOccurrences vs, w.alike v = true := by
  induction vs using List.reverseRecOn generalizing v with
  | nil => cases h
  | append_singleton vs x ih =>
    have hm' (u) (hu : u ∈ vs) : u.measured = true := hm u (List.mem_append_left _ hu)
    rw [firstOccurrences_concat]
    rcases List.mem_append.1 h with h | h
    · obtain ⟨w, hw, hwv⟩ := ih hm' h
      refine ⟨w, ?_, hwv⟩
      split
      · exact hw
      · exact List.mem_append_left _ hw
    · rw [List.mem_singleton.1 h]
      split
      · next hx =>
        obtain ⟨u, hu, hux⟩ := List.any_eq_true.1 hx
        obtain ⟨w, hw, hwu⟩ := ih hm' hu
        exact ⟨w, hw, Value.alike_trans (hm' w (mem_of_mem_firstOccurrences hw)) (hm' u hu)
          (hm x (by simp)) hwu hux⟩
      · exact ⟨x, by simp, Value.alike_self x⟩

/-- Only the first occurrences need to be looked at for a value that is alike. -/
theorem any_firstOccurrences (hm : ∀ u ∈ vs, u.measured = true) (hv : v.measured = true) :
    (firstOccurrences vs).any (·.alike v) = vs.any (·.alike v) := by
  rw [Bool.eq_iff_iff, List.any_eq_true, List.any_eq_true]
  constructor
  · rintro ⟨w, hw, hwv⟩
    exact ⟨w, mem_of_mem_firstOccurrences hw, hwv⟩
  · rintro ⟨u, hu, huv⟩
    obtain ⟨w, hw, hwu⟩ := exists_alike_firstOccurrences hm hu
    exact ⟨w, hw, Value.alike_trans (hm w (mem_of_mem_firstOccurrences hw)) (hm u hu) hv hwu huv⟩

/-! ## The run -/

/-- The values that are there and stand for a value. -/
def counted (vs : List (Option Value)) : List Value :=
  vs.reduceOption.filter (! ·.isNothing)

theorem mem_of_mem_counted {vs : List (Option Value)} (h : v ∈ counted vs) : some v ∈ vs :=
  List.reduceOption_mem_iff.1 (List.mem_filter.1 h).1

theorem counted_concat_none (vs : List (Option Value)) : counted (vs ++ [none]) = counted vs := by
  simp [counted, List.reduceOption_append]

theorem counted_concat_some (vs : List (Option Value)) (v : Value) :
    counted (vs ++ [some v]) = if v.isNothing then counted vs else counted vs ++ [v] := by
  cases hn : v.isNothing <;> simp [counted, List.reduceOption_append, hn]

namespace Accumulator

variable {vs : List (Option Value)}

/-- What an operator has gathered in the end over some values, of which some may be missing. -/
def gather (operator : String) (vs : List (Option Value)) : Except Error Value := do
  return (vs.foldl step (← start operator)).finish

theorem gather_eq {operator : String} {a : Accumulator} (h : start operator = .ok a)
    (vs : List (Option Value)) : gather operator vs = .ok (vs.foldl step a).finish := by
  rw [gather, h]
  rfl

/-- The field of a group gathers the values of its argument. -/
theorem gather_valueOn {f : GroupField} (h : ∃ a, start f.operator = .ok a)
    (docs : List Document) :
    gather f.operator (docs.map f.argument.valueOn) = .ok (f.gathered docs).finish := by
  rw [gather_eq (GroupField.start_eq_ok_initial h), GroupField.gathered, List.foldl_map]

/-- One more value, seen by what was the extreme of those before it. -/
theorem extreme_foremost (hwanted : wanted ≠ .eq) {vs : List Value}
    (hm : ∀ u ∈ vs, u.measured = true) (hv : v.measured = true) (hn : v.isNothing = false) :
    extreme wanted (foremost wanted vs) (some v) = foremost wanted (vs ++ [v]) := by
  by_cases hvs : vs = []
  · subst hvs
    rw [List.nil_append, foremost_singleton, foremost, List.find?_nil, extreme, hn]
    rfl
  · obtain ⟨w, hw⟩ := exists_foremost hwanted hm hvs
    rw [foremost_concat hwanted hm hv hw, hw, extreme, hn]
    exact (apply_ite some ..).symm

theorem foldl_extreme (hwanted : wanted ≠ .eq) (hm : ∀ v, some v ∈ vs → v.measured = true) :
    vs.foldl (extreme wanted) none = foremost wanted (counted vs) := by
  induction vs using List.reverseRecOn with
  | nil => rfl
  | append_singleton vs o ih =>
    have hm' (v) (hv : some v ∈ vs) : v.measured = true := hm v (List.mem_append_left _ hv)
    rw [List.foldl_concat, ih hm']
    cases o with
    | none => rw [counted_concat_none, extreme]
    | some v =>
      rw [counted_concat_some]
      split
      · next hn => exact if_pos hn
      · next hn =>
        exact extreme_foremost hwanted (fun u hu => hm' u (mem_of_mem_counted hu)) (hm v (by simp))
          (Bool.not_eq_true _ ▸ hn)

theorem foldl_step_addToSet (hm : ∀ v, some v ∈ vs → v.measured = true) :
    vs.foldl step (addToSet []) = addToSet (firstOccurrences vs.reduceOption) := by
  induction vs using List.reverseRecOn with
  | nil => rfl
  | append_singleton vs o ih =>
    have hm' (v) (hv : some v ∈ vs) : v.measured = true := hm v (List.mem_append_left _ hv)
    rw [List.foldl_concat, ih hm', List.reduceOption_append, List.reduceOption_singleton]
    cases o with
    | none => rw [Option.toList_none, List.append_nil, step]
    | some v =>
      rw [Option.toList_some, firstOccurrences_concat, step,
        any_firstOccurrences (fun u hu => hm' u (List.reduceOption_mem_iff.1 hu)) (hm v (by simp))]
      split <;> rfl

theorem gather_min (hm : ∀ v, some v ∈ vs → v.measured = true) :
    gather "$min" vs = .ok ((foremost .lt (counted vs)).getD .null) := by
  have hs : start "$min" = .ok (least none) := by simp [start]
  have hfold : vs.foldl step (least none) = least (vs.foldl (extreme .lt) none) :=
    List.foldl_hom least fun _ _ => rfl
  rw [gather_eq hs, hfold, foldl_extreme (by decide) hm, finish]

theorem gather_max (hm : ∀ v, some v ∈ vs → v.measured = true) :
    gather "$max" vs = .ok ((foremost .gt (counted vs)).getD .null) := by
  have hs : start "$max" = .ok (greatest none) := by simp [start]
  have hfold : vs.foldl step (greatest none) = greatest (vs.foldl (extreme .gt) none) :=
    List.foldl_hom greatest fun _ _ => rfl
  rw [gather_eq hs, hfold, foldl_extreme (by decide) hm, finish]

theorem gather_addToSet (hm : ∀ v, some v ∈ vs → v.measured = true) :
    gather "$addToSet" vs = .ok (.array (firstOccurrences vs.reduceOption)) := by
  have hs : start "$addToSet" = .ok (addToSet []) := by simp [start]
  rw [gather_eq hs, foldl_step_addToSet hm, finish]

/-! ## Main result -/

/-- **Extremes and sets.** Over measured values the least one that is gathered is the first one of
those that stand for a value which is at or below all of them, the greatest one is the first at or
above all, and both are null if none stands for a value. The set has the first occurrences of all
values that are there: no two of them are alike, and each value is alike to one. -/
theorem extremes_and_sets_gathered (h : ∀ v, some v ∈ vs → v.measured = true) :
    ∃ (low high : Value) (items : List Value),
      gather "$min" vs = .ok low ∧ gather "$max" vs = .ok high ∧
      gather "$addToSet" vs = .ok (.array items) ∧
      (counted vs = [] → low = .null ∧ high = .null) ∧
      (counted vs ≠ [] → foremost .lt (counted vs) = some low ∧
        foremost .gt (counted vs) = some high) ∧
      items = firstOccurrences vs.reduceOption ∧
      (items.Pairwise fun v w => v.alike w = false) ∧
      ∀ v, some v ∈ vs → ∃ w ∈ items, w.alike v = true := by
  refine ⟨_, _, _, gather_min h, gather_max h, gather_addToSet h, fun hc => ?_, fun hc => ?_, rfl,
    pairwise_firstOccurrences _, fun v hv => ?_⟩
  · rw [hc]
    exact ⟨rfl, rfl⟩
  · have hm (v) (hv : v ∈ counted vs) : v.measured = true := h v (mem_of_mem_counted hv)
    obtain ⟨low, hlow⟩ : ∃ v, foremost .lt (counted vs) = some v :=
      exists_foremost (by decide) hm hc
    obtain ⟨high, hhigh⟩ : ∃ v, foremost .gt (counted vs) = some v :=
      exists_foremost (by decide) hm hc
    rw [hlow, hhigh]
    exact ⟨rfl, rfl⟩
  · exact exists_alike_firstOccurrences (fun u hu => h u (List.reduceOption_mem_iff.1 hu))
      (List.reduceOption_mem_iff.2 hv)

/-- Ones of both widths are alike, and the first one of them is kept. -/
theorem extremes_and_sets_gathered_of_mixed :
    let vs : List (Option Value) := [none, some (.int32 2), some .null, some (.int64 1),
      some (.int32 1), some (.string "a"), some .undefined, some (.int64 2)]
    (∀ v, some v ∈ vs → v.measured = true) ∧
      gather "$min" vs = .ok (.int64 1) ∧ gather "$max" vs = .ok (.string "a") ∧
      gather "$addToSet" vs =
        .ok (.array [.int32 2, .null, .int64 1, .string "a"]) := by
  intro vs
  have h : ∀ v, some v ∈ vs → v.measured = true := by
    intro v hv
    simp only [vs, List.mem_cons, Option.some.injEq, List.not_mem_nil, or_false, reduceCtorEq,
      false_or] at hv
    rcases hv with rfl | rfl | rfl | rfl | rfl | rfl | rfl <;> rfl
  obtain ⟨low, high, items, hlow, hhigh, hset, -, hc, hitems, -, -⟩ := extremes_and_sets_gathered h
  obtain ⟨hl, hh⟩ := hc (List.cons_ne_nil _ _)
  have hl' : foremost .lt (counted vs) = some (.int64 1) := by rfl
  have hh' : foremost .gt (counted vs) = some (.string "a") := by rfl
  have hi' : firstOccurrences vs.reduceOption = [.int32 2, .null, .int64 1, .string "a"] := by rfl
  rw [hlow, hhigh, hset, hitems, hi', ← Option.some.inj (hl'.symm.trans hl),
    ← Option.some.inj (hh'.symm.trans hh)]
  exact ⟨h, rfl, rfl, rfl⟩

end Accumulator

end DocumentDb
