import DocumentDb.Proofs.Memory.Call
import DocumentDb.Proofs.Value.Order

/-!
# Well-formed collections

A collection is `WellFormed` if its documents carry textual identifiers, all of them different, if
its indexes are on different fields, and if a unique index separates the documents: no two of them
have values at it that the order does not tell apart.

**Theorem (`wellFormed_after_run`).** After any run from a store without collections, all
collections are well-formed.

Every move keeps well-formedness. A document that is put in the place of another one is compared
with the others from one side only, so `Value.alike_comm` is needed; being alike is never chained.
-/

namespace DocumentDb.Memory

/-! ## Lists of pairwise related items -/

section Pairwise

variable {α : Type} {R : α → α → Prop}

theorem rel_of_ne (hR : ∀ a b, R a b → R b a) {l : List α} (h : l.Pairwise R) {j k : Nat}
    (hj : j < l.length) (hk : k < l.length) (hjk : j ≠ k) : R l[j] l[k] := by
  rcases Nat.lt_or_gt_of_ne hjk with hlt | hgt
  · exact List.pairwise_iff_getElem.1 h j k hj hk hlt
  · exact hR _ _ (List.pairwise_iff_getElem.1 h k j hk hj hgt)

theorem rel_of_mem_eraseIdx (hR : ∀ a b, R a b → R b a) {l : List α} (h : l.Pairwise R) {k : Nat}
    {a b : α} (hk : l[k]? = some a) (hb : b ∈ l.eraseIdx k) : R b a := by
  obtain ⟨j, hj, hjk, rfl⟩ := List.mem_eraseIdx_iff_getElem.1 hb
  obtain ⟨hlt, rfl⟩ := List.getElem?_eq_some_iff.1 hk
  exact rel_of_ne hR h hj hlt hjk

theorem pairwise_set (hR : ∀ a b, R a b → R b a) {l : List α} (h : l.Pairwise R) {k : Nat} {a : α}
    (ha : ∀ b ∈ l.eraseIdx k, R b a) : (l.set k a).Pairwise R := by
  induction l generalizing k with
  | nil => exact h
  | cons b l ih =>
    rw [List.pairwise_cons] at h
    cases k with
    | zero => exact List.pairwise_cons.2 ⟨fun x hx => hR x a (ha x hx), h.2⟩
    | succ k =>
      rw [List.set_cons_succ, List.pairwise_cons]
      refine ⟨fun x hx => ?_, ih h.2 fun x hx => ha x (List.mem_cons_of_mem b hx)⟩
      rcases List.mem_or_eq_of_mem_set hx with hx | rfl
      · exact h.1 x hx
      · exact ha b List.mem_cons_self

theorem pairwise_concat {l : List α} (h : l.Pairwise R) {a : α} (ha : ∀ b ∈ l, R b a) :
    (l ++ [a]).Pairwise R := by
  rw [List.pairwise_append]
  refine ⟨h, List.pairwise_singleton R a, fun b hb x hx => ?_⟩
  rw [List.mem_singleton.1 hx]
  exact ha b hb

end Pairwise

/-! ## The invariant -/

/-- No two of some documents have values at an index that the order does not tell apart. -/
def Index.Separates (i : Index) (docs : List Document) : Prop :=
  docs.Pairwise fun d e => (i.valueOf d).alike (i.valueOf e) = false

theorem Index.alike_symm (i : Index) (d e : Document)
    (h : (i.valueOf d).alike (i.valueOf e) = false) :
    (i.valueOf e).alike (i.valueOf d) = false := by
  rw [Value.alike_comm]
  exact h

namespace Collection

/-- Identifiers are texts and differ, indexes are on different fields, and unique indexes separate
the documents. -/
structure WellFormed (c : Collection) : Prop where
  identified : ∀ d ∈ c.documents, ∃ id, d.id? = some id
  ids_differ : c.documents.Pairwise fun d e => d.id? ≠ e.id?
  fields_differ : (c.indexes.map Index.field).Nodup
  separated : ∀ i ∈ c.indexes, i.unique = true → i.Separates c.documents

theorem wellFormed_empty : WellFormed {} :=
  ⟨by simp, .nil, .nil, by simp⟩

variable {c : Collection} {name id : String} {d : Document}

/-! ## Documents come, change and go -/

theorem WellFormed.push (h : c.WellFormed) (hp : c.position id = none)
    (hd : c.Admits c.documents (d.withId id)) : (c.push (d.withId id)).WellFormed where
  identified e he := by
    rcases List.mem_append.1 he with he | he
    · exact h.identified e he
    · rw [List.mem_singleton.1 he]
      exact ⟨id, Document.id?_withId id d⟩
  ids_differ := pairwise_concat h.ids_differ fun e he => by
    rw [Document.id?_withId]
    exact position_eq_none_iff.1 hp e he
  fields_differ := h.fields_differ
  separated i hi hu := pairwise_concat (h.separated i hi hu) (hd i hi hu)

theorem WellFormed.set (h : c.WellFormed) {place : Nat} (hp : c.position id = some place)
    (hd : c.Admits (c.documents.eraseIdx place) (d.withId id)) :
    ({ c with documents := c.documents.set place (d.withId id) } : Collection).WellFormed where
  identified e he := by
    rcases List.mem_or_eq_of_mem_set he with he | rfl
    · exact h.identified e he
    · exact ⟨id, Document.id?_withId id d⟩
  ids_differ := by
    obtain ⟨old, ho, hid⟩ := id?_of_position hp
    refine pairwise_set (fun _ _ => Ne.symm) h.ids_differ fun e he => ?_
    rw [Document.id?_withId, ← hid]
    exact rel_of_mem_eraseIdx (fun _ _ => Ne.symm) h.ids_differ ho he
  fields_differ := h.fields_differ
  separated i hi hu := pairwise_set i.alike_symm (h.separated i hi hu) (hd i hi hu)

theorem WellFormed.eraseIdx (h : c.WellFormed) (place : Nat) :
    ({ c with documents := c.documents.eraseIdx place } : Collection).WellFormed where
  identified e he := h.identified e (List.mem_of_mem_eraseIdx he)
  ids_differ := h.ids_differ.sublist (List.eraseIdx_sublist ..)
  fields_differ := h.fields_differ
  separated i hi hu := (h.separated i hi hu).sublist (List.eraseIdx_sublist ..)

theorem WellFormed.applied {w : Write} {e : Effect} (he : c.Applied name w e)
    (h : c.WellFormed) : e.collection.WellFormed := by
  cases he with
  | inserted hp hd | upserted hp hd => exact h.push hp hd
  | confirmed hp _ hd | modified hp _ hd => exact h.set hp hd
  | deleted => exact h.eraseIdx _
  | unmatched | absent => exact h

/-! ## Indexes come and go -/

theorem firstRepeated?_eq_none_iff {i : Index} {seen docs : List Document}
    (hs : i.Separates seen) :
    firstRepeated? i seen docs = none ↔ i.Separates (seen ++ docs) := by
  induction docs generalizing seen with
  | nil => simp [firstRepeated?, hs]
  | cons d docs ih =>
    rw [firstRepeated?]
    cases ht : takenBy seen d i with
    | true =>
      rw [if_pos rfl]
      refine ⟨fun h => (nomatch h), fun h => ?_⟩
      have hd := takenBy_eq_false.2 fun e he =>
        (List.pairwise_append.1 h).2.2 e he d List.mem_cons_self
      rw [ht] at hd
      cases hd
    | false =>
      rw [if_neg (by simp), ih (pairwise_concat hs (takenBy_eq_false.1 ht)),
        ← List.append_cons]

theorem mem_placeIndex {i j : Index} {js : List Index} (h : j ∈ placeIndex i js) :
    j = i ∨ j ∈ js := by
  induction js with
  | nil => exact Or.inl (List.mem_singleton.1 h)
  | cons k js ih => grind [placeIndex]

theorem map_field_placeIndex (i : Index) (js : List Index) :
    (placeIndex i js).map Index.field =
      if i.field ∈ js.map Index.field then js.map Index.field
      else js.map Index.field ++ [i.field] := by
  induction js with
  | nil => rfl
  | cons j js ih => grind [placeIndex]

theorem WellFormed.addIndex {i : Index} {c' : Collection} (h : c.WellFormed)
    (hi : c.addIndex name i = .ok c') : c'.WellFormed := by
  rw [Collection.addIndex] at hi
  split at hi
  · cases hi
  · next hr =>
    cases hi
    refine ⟨h.identified, h.ids_differ, ?_, fun j hj hu => ?_⟩
    · show ((placeIndex i c.indexes).map Index.field).Nodup
      rw [map_field_placeIndex]
      split
      · exact h.fields_differ
      · next hf => exact List.nodup_append.2 ⟨h.fields_differ, by simp, by grind⟩
    · rcases mem_placeIndex hj with rfl | hj
      · rw [if_pos hu] at hr
        exact (firstRepeated?_eq_none_iff .nil).1 hr
      · exact h.separated j hj hu

theorem WellFormed.dropIndex {field : String} {c' : Collection} (h : c.WellFormed)
    (hi : c.dropIndex field = .ok c') : c'.WellFormed := by
  rw [Collection.dropIndex] at hi
  split at hi
  · cases hi
    exact ⟨h.identified, h.ids_differ, h.fields_differ.sublist (List.filter_sublist.map _),
      fun j hj hu => h.separated j (List.mem_filter.1 hj).1 hu⟩
  · cases hi

end Collection

/-! ## Runs -/

theorem Moves.wellFormed {name : String} {c c' : Collection} {changes : List Change}
    (hm : Moves name c changes c') (h : c.WellFormed) : c'.WellFormed := by
  cases hm with
  | keep => exact h
  | write ws => exact Collection.run_keeps Collection.WellFormed.applied ws h
  | drop => exact Collection.wellFormed_empty
  | addIndex hi => exact h.addIndex hi
  | dropIndex hi => exact h.dropIndex hi

theorem Reachable.wellFormed {s : Store} (hs : Reachable s) (name : String) :
    (s.collection name).WellFormed :=
  hs.collection Collection.wellFormed_empty Moves.wellFormed

/-- **Collections stay well-formed.** After any run from a store without collections, whatever its
steps are and whether they fail, the documents of a collection carry textual identifiers, two of
them in different places have different ones, two indexes are on different fields, and two
documents in different places have values at a unique index that the order tells apart. -/
theorem wellFormed_after_run (shuffle : Shuffle) (steps : List Step) (name : String) :
    let c := (({ shuffle := shuffle } : Store).after steps).collection name
    (∀ d ∈ c.documents, ∃ id, d.get? idKey = some (.string id)) ∧
      (∀ j k (hj : j < c.documents.length) (hk : k < c.documents.length), j ≠ k →
        c.documents[j].get? idKey ≠ c.documents[k].get? idKey) ∧
      (∀ j k (hj : j < c.indexes.length) (hk : k < c.indexes.length), j ≠ k →
        c.indexes[j].field ≠ c.indexes[k].field) ∧
      ∀ i ∈ c.indexes, i.unique = true →
        ∀ j k (hj : j < c.documents.length) (hk : k < c.documents.length), j ≠ k →
          (i.valueOf c.documents[j]).alike (i.valueOf c.documents[k]) = false := by
  intro c
  have h : c.WellFormed := Reachable.wellFormed ⟨shuffle, steps, rfl⟩ name
  refine ⟨fun d hd => ?_, fun j k hj hk hjk he => ?_, fun j k hj hk hjk => ?_,
    fun i hi hu j k hj hk hjk => ?_⟩
  · obtain ⟨id, hid⟩ := h.identified d hd
    exact ⟨id, Document.id?_eq_some_iff.1 hid⟩
  · exact rel_of_ne (fun _ _ => Ne.symm) h.ids_differ hj hk hjk
      (by rw [Document.id?, Document.id?, he])
  · exact rel_of_ne (fun _ _ => Ne.symm) (List.pairwise_map.1 h.fields_differ) hj hk hjk
  · exact rel_of_ne i.alike_symm (h.separated i hi hu) hj hk hjk

end DocumentDb.Memory
