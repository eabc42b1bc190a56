import DocumentDb.Proofs.Expression.Arithmetic
import Mathlib.Algebra.Order.BigOperators.Group.List
import Mathlib.Algebra.Order.Ring.Nat
import Mathlib.Data.List.Forall2
import Mathlib.Data.List.Induction

/-!
# Groups of reordered documents

The groups of some documents and what is gathered in them are found in one pass, in the order in
which the documents come. Reordering the documents can change which key stands for a group, the
order of the groups, and the kind of a sum; it changes nothing else.

**Lists that match** (`Matched`). Two lists match if the values of one are alike to those of the
other one by one, in some order. Lists without alike values match if they cover one another
(`matched_of_covers`). That is so of the keys of groups, and of the sets that are gathered.

**Members** (`ofKey`). Since being alike is transitive, the members of a group are all documents
whose key is alike to that of the group (`Partition.members_eq`), so matching groups have the same
members.

**Theorem (`group_reordered`).** Over measured values, sums of integers, extremes and sets are the
same for the documents in any order, in groups that match.
-/

namespace DocumentDb

variable {u v w : Value} {vs ws : List Value}

/-! ## Lists that match -/

/-- The values of two lists are alike one by one, in some order. -/
def Matched (vs ws : List Value) : Prop :=
  ∃ l, ws.Perm l ∧ List.Forall₂ (fun v w => v.alike w = true) vs l

/-- No two values of a list are alike. -/
def Unlike (vs : List Value) : Prop :=
  vs.Pairwise fun v w => v.alike w = false

theorem Unlike.perm (h : Unlike vs) (hp : vs.Perm ws) : Unlike ws :=
  (hp.pairwise_iff fun hvw => by rwa [Value.alike_comm]).1 h

/-- A value that is alike to the first of some unlike ones is alike to none of the others. -/
theorem Unlike.alike_eq_false (h : Unlike (v :: vs)) (hm : ∀ x ∈ v :: vs, x.measured = true)
    (hu : u.measured = true) (hvu : v.alike u = true) (hw : w ∈ vs) : w.alike u = false := by
  have hvw := (List.pairwise_cons.1 h).1 w hw
  rw [← Bool.not_eq_true] at hvw ⊢
  intro hwu
  rw [Value.alike_comm] at hwu
  exact hvw (Value.alike_trans (hm v List.mem_cons_self) hu
    (hm w (List.mem_cons_of_mem v hw)) hvu hwu)

/-- Lists without alike values that cover one another match. -/
theorem matched_of_covers (hmv : ∀ v ∈ vs, v.measured = true) (hmw : ∀ w ∈ ws, w.measured = true)
    (hv : Unlike vs) (hw : Unlike ws) (hvw : ∀ v ∈ vs, ∃ w ∈ ws, v.alike w = true)
    (hwv : ∀ w ∈ ws, ∃ v ∈ vs, v.alike w = true) : Matched vs ws := by
  induction vs generalizing ws with
  | nil =>
    have hnil : ws = [] := List.eq_nil_iff_forall_not_mem.2 fun w hw => by
      obtain ⟨v, hv, -⟩ := hwv w hw
      exact List.not_mem_nil hv
    exact ⟨[], hnil ▸ .nil, .nil⟩
  | cons v vs ih =>
    obtain ⟨w, hmem, ha⟩ := hvw v List.mem_cons_self
    obtain ⟨before, after, rfl⟩ := List.append_of_mem hmem
    -- The partner of the first value goes to the front, and the others cover one another.
    have hp : (before ++ w :: after).Perm (w :: (before ++ after)) := List.perm_middle
    have hmw' (x) (hx : x ∈ w :: (before ++ after)) : x.measured = true :=
      hmw x (hp.mem_iff.2 hx)
    have hw' : Unlike (w :: (before ++ after)) := hw.perm hp
    have hvw' (x) (hx : x ∈ vs) : ∃ y ∈ before ++ after, x.alike y = true := by
      obtain ⟨y, hy, hxy⟩ := hvw x (List.mem_cons_of_mem v hx)
      rcases List.mem_cons.1 (hp.mem_iff.1 hy) with rfl | hy
      · have := hv.alike_eq_false hmv (hmw' y List.mem_cons_self) ha hx
        rw [hxy] at this
        cases this
      · exact ⟨y, hy, hxy⟩
    have hwv' (y) (hy : y ∈ before ++ after) : ∃ x ∈ vs, x.alike y = true := by
      obtain ⟨x, hx, hxy⟩ := hwv y (hp.mem_iff.2 (List.mem_cons_of_mem w hy))
      rcases List.mem_cons.1 hx with rfl | hx
      · rw [Value.alike_comm] at ha hxy
        have := hw'.alike_eq_false hmw' (hmv x List.mem_cons_self) ha hy
        rw [hxy] at this
        cases this
      · exact ⟨x, hx, hxy⟩
    obtain ⟨l, hl, hf⟩ := ih (fun x hx => hmv x (List.mem_cons_of_mem v hx))
      (fun x hx => hmw' x (List.mem_cons_of_mem w hx)) (List.pairwise_cons.1 hv).2
      (List.pairwise_cons.1 hw').2 hvw' hwv'
    exact ⟨w :: l, hp.trans (hl.cons w), .cons ha hf⟩

/-! ## What is gathered over reordered values -/

/-- The foremost values of a list and of the list reordered are alike. -/
theorem alike_foremost {wanted : Ordering} (hwanted : wanted ≠ .eq) (hp : vs.Perm ws)
    (hv : foremost wanted vs = some v) (hw : foremost wanted ws = some w) :
    v.alike w = true := by
  have hvw := leads_iff.1 (List.find?_some hv) w (hp.mem_iff.2 (List.mem_of_find?_eq_some hw))
  have hwv := leads_iff.1 (List.find?_some hw) v (hp.mem_iff.1 (List.mem_of_find?_eq_some hv))
  rw [Value.alike, beq_iff_eq]
  rw [← Value.order_swap v w] at hwv
  cases wanted <;> cases h : v.order w <;> simp_all

theorem alike_foremost_getD {wanted : Ordering} (hwanted : wanted ≠ .eq)
    (hm : ∀ v ∈ vs, v.measured = true) (hp : vs.Perm ws) :
    ((foremost wanted vs).getD .null).alike ((foremost wanted ws).getD .null) = true := by
  by_cases hvs : vs = []
  · subst hvs
    rw [hp.nil_eq]
    exact Value.alike_self _
  · obtain ⟨v, hv⟩ := exists_foremost hwanted hm hvs
    obtain ⟨w, hw⟩ := exists_foremost hwanted (fun w hw => hm w (hp.mem_iff.2 hw))
      fun hws => hvs (hws ▸ hp).eq_nil
    rw [hv, hw]
    exact alike_foremost hwanted hp hv hw

theorem matched_firstOccurrences (hm : ∀ v ∈ vs, v.measured = true) (hp : vs.Perm ws) :
    Matched (firstOccurrences vs) (firstOccurrences ws) := by
  have hm' (w) (hw : w ∈ ws) : w.measured = true := hm w (hp.mem_iff.2 hw)
  refine matched_of_covers (fun v hv => hm v (mem_of_mem_firstOccurrences hv))
    (fun w hw => hm' w (mem_of_mem_firstOccurrences hw)) (pairwise_firstOccurrences vs)
    (pairwise_firstOccurrences ws) (fun v hv => ?_) fun w hw => ?_
  · obtain ⟨w, hw, ha⟩ :=
      exists_alike_firstOccurrences hm' (hp.mem_iff.1 (mem_of_mem_firstOccurrences hv))
    exact ⟨w, hw, by rwa [Value.alike_comm]⟩
  · exact exists_alike_firstOccurrences hm (hp.mem_iff.2 (mem_of_mem_firstOccurrences hw))

theorem reduceOption_perm {os os' : List (Option Value)} (hp : os.Perm os') :
    os.reduceOption.Perm os'.reduceOption :=
  hp.filterMap id

/-- The size of a sum is at most the sum of the sizes. -/
theorem natAbs_sum_le (ns : List Int) : ns.sum.natAbs ≤ (ns.map Int.natAbs).sum := by
  induction ns with
  | nil => rfl
  | cons n ns ih =>
    rw [List.sum_cons, List.map_cons, List.sum_cons]
    exact (Int.natAbs_add_le n ns.sum).trans (Nat.add_le_add_left ih _)

/-- If the sizes of some integers come to less than `2 ^ 63`, so do all partial sums. -/
theorem fits_sum_of_mem_inits {ns ms : List Int} (h : (ns.map Int.natAbs).sum < 2 ^ 63)
    (hms : ms ∈ ns.inits) : Fits 64 ms.sum := by
  obtain ⟨rest, rfl⟩ := (List.mem_inits ms ns).1 hms
  rw [List.map_append, List.sum_append] at h
  have := natAbs_sum_le ms
  rw [fits_64_iff]
  omega

namespace GroupField

variable {f : GroupField} {docs docs' : List Document} {d : Document}

/-- The integer that the argument of a field has on a document, if it is one. -/
def integerOn (f : GroupField) (d : Document) : Option Int :=
  (f.argument.valueOn d).bind Value.integer?

/-- The sizes of the integers that a field adds up over some documents. -/
def sizes (f : GroupField) (docs : List Document) : List Nat :=
  docs.map fun d => ((f.integerOn d).getD 0).natAbs

theorem valueOn_of_integerOn {n : Int} (h : f.integerOn d = some n) :
    ∃ v, f.argument.valueOn d = some v ∧ v.integer? = some n :=
  Option.bind_eq_some_iff.1 h

/-- A sum of integers whose sizes come to less than `2 ^ 63` is exact. -/
theorem integer?_gathered (hop : f.operator = "$sum")
    (h : ∀ d ∈ docs, ∃ n, f.integerOn d = some n) (hsizes : (f.sizes docs).sum < 2 ^ 63) :
    (f.gathered docs).finish.integer? = some (docs.map fun d => (f.integerOn d).getD 0).sum := by
  have hvalue (d) (hd : d ∈ docs) : ∃ v, f.argument.valueOn d = some v ∧
      v.integer? = some ((f.integerOn d).getD 0) := by
    obtain ⟨n, hn⟩ := h d hd
    rw [hn]
    exact valueOn_of_integerOn hn
  have hos : docs.map f.argument.valueOn =
      (docs.map fun d => (f.argument.valueOn d).getD .null).map some := by
    rw [List.map_map]
    refine List.map_congr_left fun d hd => ?_
    obtain ⟨v, hv, -⟩ := hvalue d hd
    rw [Function.comp_apply, hv, Option.getD_some]
  have hns : List.Forall₂ (fun v n => v.integer? = some n)
      (docs.map fun d => (f.argument.valueOn d).getD .null)
      (docs.map fun d => (f.integerOn d).getD 0) := by
    rw [List.forall₂_map_left_iff, List.forall₂_map_right_iff, List.forall₂_same]
    intro d hd
    obtain ⟨v, hv, hvn⟩ := hvalue d hd
    rwa [hv, Option.getD_some]
  have hnum : ∀ v ∈ docs.map fun d => (f.argument.valueOn d).getD .null, v.isNumber = true := by
    refine List.forall_mem_map.2 fun d hd => ?_
    obtain ⟨v, hv, hvn⟩ := hvalue d hd
    rw [hv, Option.getD_some]
    exact Value.isNumber_of_integer? hvn
  have hgather := Accumulator.gather_valueOn (f := f) ⟨_, by rw [hop]; rfl⟩ docs
  rw [hop, hos, Accumulator.gather_sum hnum] at hgather
  rw [← Except.ok.inj hgather]
  refine (calculated_sum hns).integer fun ms hms => fits_sum_of_mem_inits ?_ hms
  rwa [List.map_map]

end GroupField

/-! ## Members -/

variable {id : Expression} {ids ids' : List Value} {fields : List GroupField}
  {docs docs' : List Document} {d e : Document}

/-- The documents whose key is alike to a given one. -/
def ofKey (id : Expression) (key : Value) (docs : List Document) : List Document :=
  docs.filter fun d => key.alike (keyOn id d)

theorem Partition.measured (h : Partition id ids docs)
    (hm : ∀ d ∈ docs, (keyOn id d).measured = true) (hv : v ∈ ids) : v.measured = true := by
  obtain ⟨d, hd, rfl⟩ := h.exists_keyOn_eq hv
  exact hm d hd

/-- A document belongs to the only key that is alike to its own. -/
theorem Partition.home_eq_some_iff (h : Partition id ids docs)
    (hm : ∀ d ∈ docs, (keyOn id d).measured = true) (hd : d ∈ docs) {i : Nat}
    (hi : i < ids.length) : home ids (keyOn id d) = some i ↔ ids[i].alike (keyOn id d) = true := by
  rw [home, List.findIdx?_eq_some_iff_getElem]
  constructor
  · rintro ⟨_, ha, -⟩
    exact ha
  · intro ha
    refine ⟨hi, ha, fun j hji hj => ?_⟩
    have hlt : j < ids.length := hji.trans hi
    have hne := List.pairwise_iff_getElem.1 h.unlike j i hlt hi hji
    rw [Value.alike_trans (h.measured hm (List.getElem_mem hlt)) (hm d hd)
      (h.measured hm (List.getElem_mem hi)) hj (by rwa [Value.alike_comm])] at hne
    cases hne

theorem Partition.members_eq (h : Partition id ids docs)
    (hm : ∀ d ∈ docs, (keyOn id d).measured = true) {i : Nat} (hi : i < ids.length) :
    members id ids i docs = ofKey id ids[i] docs := by
  refine List.filter_congr fun d hd => ?_
  rw [Bool.eq_iff_iff, beq_iff_eq]
  exact h.home_eq_some_iff hm hd hi

theorem Partition.groupsAt_eq (h : Partition id ids docs)
    (hm : ∀ d ∈ docs, (keyOn id d).measured = true) :
    groupsAt id fields ids docs =
      ids.map fun v => ⟨v, fields.map fun f => f.gathered (ofKey id v docs)⟩ :=
  List.ext_getElem (by simp [groupsAt]) fun i h₁ h₂ => by
    simp only [groupsAt, List.getElem_mapIdx, List.getElem_map]
    rw [h.members_eq hm]

/-- The keys of the groups match if the documents are reordered. -/
theorem Partition.matched (h : Partition id ids docs) (h' : Partition id ids' docs')
    (hm : ∀ d ∈ docs, (keyOn id d).measured = true) (hp : docs.Perm docs') : Matched ids ids' := by
  have hm' (d) (hd : d ∈ docs') : (keyOn id d).measured = true := hm d (hp.mem_iff.2 hd)
  refine matched_of_covers (fun v hv => h.measured hm hv) (fun v hv => h'.measured hm' hv)
    h.unlike h'.unlike (fun v hv => ?_) fun w hw => ?_
  · obtain ⟨d, hd, rfl⟩ := h.exists_keyOn_eq hv
    obtain ⟨w, hw, ha⟩ := h'.exists_alike_keyOn (hp.mem_iff.1 hd)
    exact ⟨w, hw, by rwa [Value.alike_comm]⟩
  · obtain ⟨d, hd, rfl⟩ := h'.exists_keyOn_eq hw
    exact h.exists_alike_keyOn (hp.mem_iff.2 hd)

theorem ofKey_perm (hm : ∀ d ∈ docs, (keyOn id d).measured = true) (hp : docs.Perm docs')
    (hv : v.measured = true) (hw : w.measured = true) (ha : v.alike w = true) :
    (ofKey id v docs).Perm (ofKey id w docs') := by
  have hvw : ofKey id v docs = ofKey id w docs := by
    refine List.filter_congr fun d hd => ?_
    rw [Bool.eq_iff_iff]
    constructor
    · exact Value.alike_trans hw hv (hm d hd) (by rwa [Value.alike_comm])
    · exact Value.alike_trans hv hw (hm d hd) ha
  rw [hvw]
  exact hp.filter _

/-! ## What fields gather over reordered documents -/

/-- What an operator has gathered is the same but for the order of the documents: a sum is the same
integer, a set has matching items, and an extreme is alike. -/
def Accumulator.Agree (operator : String) (v w : Value) : Prop :=
  if operator = "$sum" then ∃ n, v.integer? = some n ∧ w.integer? = some n
  else if operator = "$addToSet" then
    ∃ items items', v = .array items ∧ w = .array items' ∧ Matched items items'
  else v.alike w = true

theorem GroupField.start_of_mem {f : GroupField}
    (h : f.operator ∈ ["$sum", "$min", "$max", "$addToSet"]) :
    ∃ a, Accumulator.start f.operator = .ok a := by
  simp only [List.mem_cons, List.not_mem_nil, or_false] at h
  rcases h with hop | hop | hop | hop <;> exact ⟨_, by rw [hop]; rfl⟩

/-- All operators are sums, extremes or sets, the key and all arguments can be evaluated, keys and
values are measured, and sums are of integers whose sizes come to less than `2 ^ 63`. -/
structure Reorderable (id : Expression) (fields : List GroupField) (docs : List Document) :
    Prop extends Evaluable id fields docs where
  operators : ∀ f ∈ fields, f.operator ∈ ["$sum", "$min", "$max", "$addToSet"]
  keys_measured : ∀ d ∈ docs, (keyOn id d).measured = true
  values_measured : ∀ d ∈ docs, ∀ f ∈ fields, ∀ v,
    f.argument.valueOn d = some v → v.measured = true
  integers : ∀ d ∈ docs, ∀ f ∈ fields, f.operator = "$sum" → ∃ n, f.integerOn d = some n
  bounded : ∀ f ∈ fields, f.operator = "$sum" → (f.sizes docs).sum < 2 ^ 63
  known := fun f hf => GroupField.start_of_mem (operators f hf)

namespace Reorderable

variable {f : GroupField}

/-- Other documents can be reordered too if they are among these and their sums stay in bounds. -/
theorem of_subset (h : Reorderable id fields docs) (hs : docs' ⊆ docs)
    (hb : ∀ f : GroupField, (f.sizes docs').sum ≤ (f.sizes docs).sum) :
    Reorderable id fields docs' where
  toEvaluable := h.toEvaluable.of_subset hs
  operators := h.operators
  keys_measured d hd := h.keys_measured d (hs hd)
  values_measured d hd := h.values_measured d (hs hd)
  integers d hd := h.integers d (hs hd)
  bounded f hf hop := (hb f).trans_lt (h.bounded f hf hop)

theorem sublist (h : Reorderable id fields docs) (hs : docs'.Sublist docs) :
    Reorderable id fields docs' :=
  h.of_subset hs.subset fun _ => (hs.map _).sum_le_sum fun _ _ => Nat.zero_le _

theorem perm (h : Reorderable id fields docs) (hp : docs.Perm docs') :
    Reorderable id fields docs' :=
  h.of_subset hp.symm.subset fun _ => (hp.map _).sum_eq.ge

/-- A field gathers the same over reordered documents. -/
theorem agree_gathered (h : Reorderable id fields docs) (hp : docs.Perm docs') (hf : f ∈ fields) :
    Accumulator.Agree f.operator (f.gathered docs).finish (f.gathered docs').finish := by
  have hos := hp.map f.argument.valueOn
  have hm : ∀ v, some v ∈ docs.map f.argument.valueOn → v.measured = true := by
    intro v hv
    obtain ⟨d, hd, hdv⟩ := List.mem_map.1 hv
    exact h.values_measured d hd f hf v hdv
  have hm' : ∀ v, some v ∈ docs'.map f.argument.valueOn → v.measured = true :=
    fun v hv => hm v (hos.mem_iff.2 hv)
  have hc : ∀ v ∈ counted (docs.map f.argument.valueOn), v.measured = true :=
    fun v hv => hm v (mem_of_mem_counted hv)
  have hcp := (reduceOption_perm hos).filter fun v => !v.isNothing
  have hg := Accumulator.gather_valueOn (h.known f hf) docs
  have hg' := Accumulator.gather_valueOn (h.known f hf) docs'
  have hop := h.operators f hf
  simp only [List.mem_cons, List.not_mem_nil, or_false] at hop
  rw [Accumulator.Agree]
  rcases hop with hop | hop | hop | hop
  · rw [if_pos hop]
    have hi := fun d hd => h.integers d hd f hf hop
    have hi' := fun d hd => (h.perm hp).integers d hd f hf hop
    refine ⟨_, GroupField.integer?_gathered hop hi (h.bounded f hf hop), ?_⟩
    rw [(hp.map _).sum_eq]
    exact GroupField.integer?_gathered hop hi' ((h.perm hp).bounded f hf hop)
  · rw [hop, Accumulator.gather_min hm] at hg
    rw [hop, Accumulator.gather_min hm'] at hg'
    rw [hop, if_neg (by decide), if_neg (by decide), ← Except.ok.inj hg, ← Except.ok.inj hg']
    exact alike_foremost_getD (by decide) hc hcp
  · rw [hop, Accumulator.gather_max hm] at hg
    rw [hop, Accumulator.gather_max hm'] at hg'
    rw [hop, if_neg (by decide), if_neg (by decide), ← Except.ok.inj hg, ← Except.ok.inj hg']
    exact alike_foremost_getD (by decide) hc hcp
  · rw [hop, Accumulator.gather_addToSet hm] at hg
    rw [hop, Accumulator.gather_addToSet hm'] at hg'
    rw [hop, if_neg (by decide), if_pos rfl, ← Except.ok.inj hg, ← Except.ok.inj hg']
    exact ⟨_, _, rfl, rfl, matched_firstOccurrences
      (fun v hv => hm v (List.reduceOption_mem_iff.1 hv)) (reduceOption_perm hos)⟩

end Reorderable

/-! ## Documents of matching groups -/

/-- The field that counts under a name: the last one with it. -/
def GroupField.named (fields : List GroupField) (name : String) : Option GroupField :=
  fields.reverse.find? (·.name == name)

/-- Two documents of groups have the same names, alike keys, and values that agree. -/
structure SameGroup (fields : List GroupField) (d e : Document) : Prop where
  names : d.keys = e.keys
  key : ∃ v w, d.get? idKey = some v ∧ e.get? idKey = some w ∧ v.alike w = true
  agree : ∀ name f, GroupField.named fields name = some f →
    ∃ v w, d.get? name = some v ∧ e.get? name = some w ∧ Accumulator.Agree f.operator v w

theorem GroupField.named_concat (fields : List GroupField) (f : GroupField) (name : String) :
    named (fields ++ [f]) name = if f.name = name then some f else named fields name := by
  rw [named, List.reverse_append, List.reverse_singleton, List.singleton_append, List.find?_cons,
    ← named]
  by_cases h : f.name = name
  · rw [if_pos h, beq_iff_eq.2 h]
  · rw [if_neg h, beq_eq_false_iff_ne.2 h]

/-- One more field. -/
theorem SameGroup.concat {f : GroupField} (h : SameGroup fields d e) (hf : f.name ≠ idKey)
    (ha : Accumulator.Agree f.operator v w) :
    SameGroup (fields ++ [f]) (d.insert f.name v) (e.insert f.name w) where
  names := by rw [Assoc.keys_insert, Assoc.keys_insert, h.names]
  key := by
    rw [Assoc.get?_insert_of_ne _ _ hf.symm, Assoc.get?_insert_of_ne _ _ hf.symm]
    exact h.key
  agree name g hg := by
    rw [GroupField.named_concat] at hg
    split at hg
    · next hn =>
      cases hg
      subst hn
      exact ⟨v, w, Assoc.get?_insert_self .., Assoc.get?_insert_self .., ha⟩
    · next hn =>
      rw [Assoc.get?_insert_of_ne _ _ (Ne.symm hn), Assoc.get?_insert_of_ne _ _ (Ne.symm hn)]
      exact h.agree name g hg

theorem sameGroup_document {g g' : GroupField → Accumulator} (ha : v.alike w = true)
    (hf : idKey ∉ fields.map GroupField.name)
    (hg : ∀ f ∈ fields, Accumulator.Agree f.operator (g f).finish (g' f).finish) :
    SameGroup fields (Group.document fields ⟨v, fields.map g⟩)
      (Group.document fields ⟨w, fields.map g'⟩) := by
  simp only [Group.document_map]
  induction fields using List.reverseRecOn with
  | nil => exact ⟨rfl, ⟨v, w, rfl, rfl, ha⟩, fun _ _ h => by cases h⟩
  | append_singleton fields f ih =>
    rw [List.map_append, List.mem_append, not_or] at hf
    rw [List.foldl_concat, List.foldl_concat]
    exact (ih hf.1 fun f' hf' => hg f' (List.mem_append_left _ hf')).concat
      (fun hn => hf.2 (by simp [hn])) (hg f (by simp))

/-! ## Main result -/

theorem group_eq_error (h : idKey ∈ fields.map GroupField.name) (docs : List Document) :
    group id (fields.map GroupField.fragment) docs =
      .error OperandFault.groupKeyTaken.error := by
  have hn : requireGroupNames (fields.map GroupField.fragment) =
      .error OperandFault.groupKeyTaken.error := by
    rw [requireGroupNames, if_pos]
    simpa [GroupField.fragment, Fragment.compute] using h
  rw [group, hn]
  rfl

/-- **Grouping does not mind the order of the documents.** If a field takes the name of the key,
grouping is refused in any order. Otherwise it gives as many groups for the documents reordered, and
these match one by one: their keys are alike, and what their fields have gathered agrees. -/
theorem group_reordered (h : Reorderable id fields docs) (hp : docs.Perm docs') :
    (idKey ∈ fields.map GroupField.name →
      group id (fields.map GroupField.fragment) docs =
          .error OperandFault.groupKeyTaken.error ∧
        group id (fields.map GroupField.fragment) docs' =
          .error OperandFault.groupKeyTaken.error) ∧
      (idKey ∉ fields.map GroupField.name → ∃ out out' : List Document,
        group id (fields.map GroupField.fragment) docs = .ok out ∧
          group id (fields.map GroupField.fragment) docs' = .ok out' ∧
          out.length = out'.length ∧
          ∃ l, out'.Perm l ∧ List.Forall₂ (SameGroup fields) out l) := by
  refine ⟨fun hn => ⟨group_eq_error hn docs, group_eq_error hn docs'⟩, fun hn => ?_⟩
  have h' := h.perm hp
  obtain ⟨ids, hids, hg⟩ := h.exists_groupsOf_eq
  obtain ⟨ids', hids', hg'⟩ := h'.exists_groupsOf_eq
  rw [hids.groupsAt_eq h.keys_measured] at hg
  rw [hids'.groupsAt_eq h'.keys_measured] at hg'
  obtain ⟨l, hl, hf⟩ := hids.matched hids' h.keys_measured hp
  have hlen : ids.length = ids'.length := hf.length_eq.trans hl.length_eq.symm
  refine ⟨_, _, group_eq_ok hn hg, group_eq_ok hn hg', by simp [hlen], _,
    (hl.map _).map _, ?_⟩
  rw [List.map_map, List.map_map, List.forall₂_map_left_iff, List.forall₂_map_right_iff]
  refine List.forall₂_iff_zip.2 ⟨hf.length_eq, fun {v w} hvw => ?_⟩
  have ha : v.alike w = true := (List.forall₂_iff_zip.1 hf).2 hvw
  obtain ⟨hv, hw⟩ := List.of_mem_zip hvw
  have hkp := ofKey_perm h.keys_measured hp (hids.measured h.keys_measured hv)
    (hids'.measured h'.keys_measured (hl.mem_iff.2 hw)) ha
  exact sameGroup_document ha hn fun f hf =>
    (h.sublist List.filter_sublist).agree_gathered hkp hf

/-- Ones of all widths are one key, and a sum that is long for a while in one order is short in the
other. -/
theorem group_reordered_backwards :
    let fields : List GroupField :=
      [⟨"n", "$max", .path "n"⟩, ⟨"n", "$sum", .path "n"⟩, ⟨"tags", "$addToSet", .path "tag"⟩]
    let docs : List Document :=
      [[("k", .int32 1), ("n", .int32 2147483647), ("tag", .int64 2)],
        [("n", .int64 5), ("tag", .string "a")],
        [("k", .int64 1), ("n", .int32 1)],
        [("k", .int32 1), ("n", .int32 (-2)), ("tag", .int32 2)]]
    Reorderable (.path "k") fields docs ∧ docs.Perm docs.reverse ∧
      idKey ∉ fields.map GroupField.name ∧ ∃ out out' : List Document,
        group (.path "k") (fields.map GroupField.fragment) docs = .ok out ∧
          group (.path "k") (fields.map GroupField.fragment) docs.reverse = .ok out' ∧
          out.length = out'.length ∧ ∃ l, out'.Perm l ∧ List.Forall₂ (SameGroup fields) out l := by
  intro fields docs
  have h : Reorderable (.path "k") fields docs :=
    { operators := by decide
      keyed := fun d _ => ⟨_, rfl⟩
      valued := by
        intro d _ f hf
        simp only [fields, List.mem_cons, List.not_mem_nil, or_false] at hf
        rcases hf with rfl | rfl | rfl <;> exact ⟨_, rfl⟩
      keys_measured := by
        intro d hd
        simp only [docs, List.mem_cons, List.not_mem_nil, or_false] at hd
        rcases hd with rfl | rfl | rfl | rfl <;> rfl
      values_measured := by
        intro d hd f hf v hv
        simp only [docs, List.mem_cons, List.not_mem_nil, or_false] at hd
        simp only [fields, List.mem_cons, List.not_mem_nil, or_false] at hf
        rcases hd with rfl | rfl | rfl | rfl <;> rcases hf with rfl | rfl | rfl <;>
          cases hv <;> rfl
      integers := by
        intro d hd f hf hop
        simp only [docs, List.mem_cons, List.not_mem_nil, or_false] at hd
        simp only [fields, List.mem_cons, List.not_mem_nil, or_false] at hf
        rcases hd with rfl | rfl | rfl | rfl <;> rcases hf with rfl | rfl | rfl <;>
          first | exact ⟨_, rfl⟩ | exact absurd hop (by decide)
      bounded := by
        intro f hf hop
        simp only [fields, List.mem_cons, List.not_mem_nil, or_false] at hf
        rcases hf with rfl | rfl | rfl <;> decide }
  have hp : docs.Perm docs.reverse := docs.reverse_perm.symm
  have hn : idKey ∉ fields.map GroupField.name := by decide
  exact ⟨h, hp, hn, (group_reordered h hp).2 hn⟩

end DocumentDb
