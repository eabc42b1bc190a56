import DocumentDb.Failure
import DocumentDb.Proofs.Memory.WellFormed
import Mathlib.Data.Finset.Card
import Mathlib.Data.Finset.Filter

/-!
# Writes by identifiers

What a write does to a well-formed collection, and when it is refused, said with identifiers and
without places.

**What is taken.** `Stores` says that a document has an identifier, `Clashes` that a document has
the value of another one at a unique index. The documents that a replacement is compared with are
those of the collection `without` its identifier.

**Refusals** (`insert_made_iff`, `replace_made_iff`). An insert is refused exactly if its identifier
is stored or its document clashes. A replacement is refused exactly if its document clashes with one
that has another identifier, unless there is nothing to replace or add. A refusal is always sorted
as a taken key (`classify_of_apply_error`), whichever of the two the collection complains of.

**Deletions** (`run_deletes`) are never refused, and several of them count each stored identifier
once.
-/

namespace DocumentDb.Memory

namespace Collection

/-- A document has the identifier. -/
def Stores (c : Collection) (id : String) : Prop :=
  ∃ e ∈ c.documents, e.id? = some id

instance (c : Collection) (id : String) : Decidable (c.Stores id) :=
  inferInstanceAs (Decidable (∃ e ∈ c.documents, e.id? = some id))

/-- A document has the value of `d` at a unique index. -/
def Clashes (c : Collection) (d : Document) : Prop :=
  ∃ i ∈ c.indexes, i.unique = true ∧ ∃ e ∈ c.documents, (i.valueOf e).alike (i.valueOf d) = true

instance (c : Collection) (d : Document) : Decidable (c.Clashes d) :=
  inferInstanceAs (Decidable (∃ i ∈ c.indexes, i.unique = true ∧
    ∃ e ∈ c.documents, (i.valueOf e).alike (i.valueOf d) = true))

/-- The collection without the documents that have one of some identifiers. -/
def without (c : Collection) (ids : List String) : Collection :=
  { c with documents := c.documents.filter fun e => ∀ id ∈ ids, e.id? ≠ some id }

/-- The collection with a document in the place of the one with the identifier, or behind the others
if there is none. -/
def put (c : Collection) (id : String) (d : Document) : Collection :=
  if c.Stores id then
    { c with documents := c.documents.map fun e => if e.id? = some id then d else e }
  else c.push d

variable {c : Collection} {name id : String} {d : Document} {e : Effect}

/-! ## Identifiers and places -/

theorem position_eq_none_iff_not_stores : c.position id = none ↔ ¬ c.Stores id := by
  rw [position_eq_none_iff]
  simp [Stores]

theorem stores_of_position {place : Nat} (hp : c.position id = some place) : c.Stores id := by
  by_contra hs
  rw [position_eq_none_iff_not_stores.2 hs] at hp
  cases hp

theorem id?_of_find? (h : c.find? id = some d) : d.id? = some id := by
  simpa using List.find?_some h

theorem find?_eq_none_iff_not_stores : c.find? id = none ↔ ¬ c.Stores id := by
  simp [find?, Stores]

theorem WellFormed.exists_split (h : c.WellFormed) {place : Nat}
    (hp : c.position id = some place) :
    ∃ as old bs, c.documents = as ++ old :: bs ∧ as.length = place ∧ old.id? = some id ∧
      ∀ e ∈ as ++ bs, e.id? ≠ some id := by
  obtain ⟨old, ho, hid⟩ := id?_of_position hp
  obtain ⟨hlt, hold⟩ := List.getElem?_eq_some_iff.1 ho
  have hsplit : c.documents =
      c.documents.take place ++ old :: c.documents.drop (place + 1) := by
    rw [← hold, ← List.drop_eq_getElem_cons hlt, List.take_append_drop]
  refine ⟨_, old, _, hsplit, List.length_take_of_le hlt.le, hid, fun e he hid' => ?_⟩
  have hd := h.ids_differ
  rw [hsplit, List.pairwise_append, List.pairwise_cons] at hd
  rcases List.mem_append.1 he with he | he
  · exact hd.2.2 e he old List.mem_cons_self (hid'.trans hid.symm)
  · exact hd.2.1.1 e he (hid.trans hid'.symm)

theorem WellFormed.eraseIdx_eq_without (h : c.WellFormed) {place : Nat}
    (hp : c.position id = some place) :
    { c with documents := c.documents.eraseIdx place } = c.without [id] := by
  obtain ⟨as, old, bs, hd, rfl, hid, hne⟩ := h.exists_split hp
  have hkept : (as ++ bs).filter (fun e => decide (∀ x ∈ [id], e.id? ≠ some x)) = as ++ bs :=
    List.filter_eq_self.2 fun e he => by simpa using hne e he
  rw [List.filter_append] at hkept
  rw [without, hd, List.filter_append, List.filter_cons_of_neg (by simp [hid]), hkept,
    List.eraseIdx_append_of_length_le le_rfl, Nat.sub_self, List.eraseIdx_cons_zero]

theorem WellFormed.set_eq_put (h : c.WellFormed) {place : Nat}
    (hp : c.position id = some place) (d : Document) :
    { c with documents := c.documents.set place d } = c.put id d := by
  rw [put, if_pos (stores_of_position hp)]
  obtain ⟨as, old, bs, hd, rfl, hid, hne⟩ := h.exists_split hp
  have hkept : (as ++ bs).map (fun e => if e.id? = some id then d else e) = as ++ bs :=
    (List.map_congr_left fun e he => if_neg (hne e he)).trans (List.map_id' _)
  rw [List.map_append] at hkept
  obtain ⟨ha, hb⟩ := List.append_inj hkept (List.length_map _)
  rw [hd, List.map_append, List.map_cons, ha, hb, if_pos hid, List.set_append_right _ _ le_rfl,
    Nat.sub_self, List.set_cons_zero]

theorem without_of_not_stores (hs : ¬ c.Stores id) : c.without [id] = c := by
  have hall : ∀ e ∈ c.documents, e.id? ≠ some id := fun e he hid => hs ⟨e, he, hid⟩
  have hkept : c.documents.filter (fun e => decide (∀ x ∈ [id], e.id? ≠ some x)) = c.documents :=
    List.filter_eq_self.2 fun e he => by simpa using hall e he
  rw [without, hkept]

theorem without_nil (c : Collection) : c.without [] = c := by
  simp [without]

theorem without_without (c : Collection) (ids ids' : List String) :
    (c.without ids).without ids' = c.without (ids ++ ids') := by
  have h (e : Document) : ((∀ id ∈ ids', e.id? ≠ some id) ∧ ∀ id ∈ ids, e.id? ≠ some id) ↔
      ∀ id ∈ ids ++ ids', e.id? ≠ some id := by
    rw [List.forall_mem_append, and_comm]
  simp only [without, List.filter_filter, ← Bool.decide_and, h]

theorem stores_without (c : Collection) (ids : List String) (id : String) :
    (c.without ids).Stores id ↔ c.Stores id ∧ id ∉ ids := by
  constructor
  · rintro ⟨e, he, hid⟩
    obtain ⟨hm, hne⟩ := List.mem_filter.1 he
    exact ⟨⟨e, hm, hid⟩, fun hmem => of_decide_eq_true hne id hmem hid⟩
  · rintro ⟨⟨e, he, hid⟩, hmem⟩
    refine ⟨e, List.mem_filter.2 ⟨he, decide_eq_true fun x hx hx' => ?_⟩, hid⟩
    obtain rfl : id = x := Option.some.inj (hid.symm.trans hx')
    exact hmem hx

/-! ## Refusals -/

theorem admits_iff_not_clashes (others : List Document) :
    c.Admits others d ↔ ¬ ({ c with documents := others } : Collection).Clashes d := by
  simp [Admits, Clashes]

theorem classify_of_checkUnique_error {others : List Document} {err : Error}
    (h : c.checkUnique name others d = .error err) : Failure.classify err = .duplicateKey err := by
  rw [checkUnique] at h
  split at h <;> cases h
  rfl

theorem classify_of_bind_error {others : List Document} {err : Error} {f : Unit → Effect}
    (h : (do return f (← c.checkUnique name others d)) = .error err) :
    Failure.classify err = .duplicateKey err := by
  cases hu : c.checkUnique name others d with
  | error err' =>
    rw [hu] at h
    cases h
    exact classify_of_checkUnique_error hu
  | ok u =>
    rw [hu] at h
    cases h

/-- A write is refused only for a taken key. -/
theorem classify_of_apply_error {w : Write} {err : Error} (h : c.apply name w = .error err) :
    Failure.classify err = .duplicateKey err := by
  cases w with
  | insert id d =>
    rw [apply, insert] at h
    split at h
    · cases h
      rfl
    · exact classify_of_bind_error h
  | replace id d upsert =>
    rw [apply, replace] at h
    split at h
    · exact classify_of_bind_error h
    · split at h
      · exact classify_of_bind_error h
      · cases h
  | delete id => cases h

/-! ## Single writes -/

theorem insert_made_iff :
    (∃ e, c.apply name (.insert id d) = .ok e) ↔
      ¬ (c.Stores id ∨ c.Clashes (d.withId id)) := by
  rw [not_or, ← position_eq_none_iff_not_stores, ← admits_iff_not_clashes c.documents]
  constructor
  · rintro ⟨e, he⟩
    obtain ⟨hp, hd, -⟩ := insert_eq_ok_iff.1 he
    exact ⟨hp, hd⟩
  · rintro ⟨hp, hd⟩
    exact ⟨_, insert_eq_ok_iff.2 ⟨hp, hd, rfl⟩⟩

theorem collection_of_insert (h : c.apply name (.insert id d) = .ok e) :
    e.collection = c.push (d.withId id) := by
  obtain ⟨-, -, rfl⟩ := insert_eq_ok_iff.1 h
  rfl

theorem WellFormed.replace_made_iff (h : c.WellFormed) {upsert : Bool} :
    (∃ e, c.apply name (.replace id d upsert) = .ok e) ↔
      (c.Stores id ∨ upsert = true → ¬ (c.without [id]).Clashes (d.withId id)) := by
  cases hp : c.position id with
  | some place =>
    obtain ⟨old, ho, -⟩ := id?_of_position hp
    rw [← h.eraseIdx_eq_without hp, ← admits_iff_not_clashes, apply, replace_of_position_some hp]
    simp only [overwrite_eq_ok_iff ho]
    constructor
    · rintro ⟨e, hd, -⟩ -
      exact hd
    · intro hd
      exact ⟨_, hd (.inl (stores_of_position hp)), rfl⟩
  | none =>
    have hs := position_eq_none_iff_not_stores.1 hp
    rw [without_of_not_stores hs, ← admits_iff_not_clashes c.documents, apply]
    cases upsert with
    | true =>
      simp only [replace_true_eq_ok_iff hp]
      constructor
      · rintro ⟨e, hd, -⟩ -
        exact hd
      · intro hd
        exact ⟨_, hd (.inr trivial), rfl⟩
    | false => simp [replace_false_of_position_none hp, hs]

theorem WellFormed.collection_of_replace (h : c.WellFormed) {upsert : Bool}
    (he : c.apply name (.replace id d upsert) = .ok e) :
    e.collection = if c.Stores id ∨ upsert = true then c.put id (d.withId id) else c := by
  cases applied_of_apply he with
  | upserted hp =>
    have hs := position_eq_none_iff_not_stores.1 hp
    rw [if_pos (.inr rfl), put, if_neg hs]
  | unmatched hp =>
    have hs := position_eq_none_iff_not_stores.1 hp
    rw [if_neg (by simp [hs])]
  | confirmed hp | modified hp =>
    rw [if_pos (.inl (stores_of_position hp))]
    exact h.set_eq_put hp _

theorem matched_of_replace {upsert : Bool} (he : c.apply name (.replace id d upsert) = .ok e) :
    e.summary.matched = if c.Stores id then 1 else 0 := by
  cases applied_of_apply he with
  | upserted hp => rw [if_neg (position_eq_none_iff_not_stores.1 hp)]
  | unmatched hp =>
    rw [if_neg (position_eq_none_iff_not_stores.1 hp)]
    rfl
  | confirmed hp | modified hp => rw [if_pos (stores_of_position hp)]

theorem WellFormed.collection_of_delete (h : c.WellFormed) :
    (c.delete name id).collection = c.without [id] := by
  rw [delete]
  split
  · next place hp => exact h.eraseIdx_eq_without hp
  · next hp => exact (without_of_not_stores (position_eq_none_iff_not_stores.1 hp)).symm

theorem deleted_of_delete :
    (c.delete name id).summary.deleted = if c.Stores id then 1 else 0 := by
  rw [delete]
  split
  · next place hp => rw [if_pos (stores_of_position hp)]
  · next hp =>
    rw [if_neg (position_eq_none_iff_not_stores.1 hp)]
    rfl

/-! ## Several deletions -/

theorem card_stored_insert (c : Collection) (id : String) (ids : Finset String) :
    ((Insert.insert id ids).filter c.Stores).card =
      (if c.Stores id then 1 else 0) + (ids.filter (c.without [id]).Stores).card := by
  by_cases hs : c.Stores id
  · have hsplit : (Insert.insert id ids).filter c.Stores =
        Insert.insert id (ids.filter (c.without [id]).Stores) := by
      ext x
      simp only [Finset.mem_filter, Finset.mem_insert, stores_without, List.mem_singleton]
      by_cases hx : x = id
      · simp [hx, hs]
      · simp [hx]
    rw [hsplit, Finset.card_insert_of_notMem (by simp [stores_without]), if_pos hs, Nat.add_comm]
  · rw [Finset.filter_insert, if_neg hs, if_neg hs, Nat.zero_add, without_of_not_stores hs]

/-- Deletions are never refused. They remove the documents with one of the identifiers, and count
each identifier once that was stored. -/
theorem WellFormed.run_deletes (h : c.WellFormed) (name : String) (ids : List String) :
    (c.run name (ids.map .delete)).error = none ∧
      (c.run name (ids.map .delete)).collection = c.without ids ∧
      (c.run name (ids.map .delete)).summary.deleted = (ids.toFinset.filter c.Stores).card := by
  induction ids generalizing c with
  | nil => exact ⟨rfl, (without_nil c).symm, rfl⟩
  | cons id ids ih =>
    have ha : c.apply name (.delete id) = .ok (c.delete name id) := rfl
    obtain ⟨herr, hcol, hdel⟩ := ih (h.applied (applied_of_apply ha))
    rw [h.collection_of_delete] at herr hcol hdel
    rw [List.map_cons, run_cons_ok ha, h.collection_of_delete, List.toFinset_cons,
      card_stored_insert, ← hdel, ← deleted_of_delete]
    refine ⟨herr, ?_, rfl⟩
    show ((c.without [id]).run name _).collection = _
    rw [hcol, without_without]
    rfl

end Collection

end DocumentDb.Memory
