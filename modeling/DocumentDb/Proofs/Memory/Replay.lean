import DocumentDb.Proofs.Memory.WellFormed
import DocumentDb.Proofs.Value.Same
import Mathlib.Data.List.Forall2

/-!
# Changes are enough to follow a collection

Whoever has a copy of the documents of a collection and replays its changes on the copy keeps up
with the collection.

**Copies** (`Document.Copies`). A document and its copy have the same identifier and are equal or
the same. They may differ, since new content that is the same as the old one is stored without a
change; the copy then stays behind, and `Document.same_trans` takes it along.

**Theorem (`replay_copies`).** From any reachable store, after any steps, the replayed copy has as
many documents as the collection, and each is a copy of the stored one in its place.
-/

namespace DocumentDb

/-- Some documents after a change is replayed on them. -/
def Change.replay (docs : List Document) : Change → List Document
  | ⟨_, .insert, _, some d⟩ => docs ++ [d]
  | ⟨_, .replace, some id, some d⟩ =>
    match docs.findIdx? (·.id? == some id) with
    | some place => docs.set place d
    | none => docs
  | ⟨_, .delete, some id, _⟩ => docs.eraseP (·.id? == some id)
  | ⟨_, .drop, _, _⟩ => []
  | _ => docs

/-- The first document has the identifier of the second one, and its content is equal or the same:
keys may come in another order, and zeros may differ in their sign. -/
structure Document.Copies (d e : Document) : Prop where
  identified : ∃ id, d.id? = some id ∧ e.id? = some id
  content : d = e ∨ d.same e = true

theorem Document.copies_self {d : Document} (h : ∃ id, d.id? = some id) : d.Copies d where
  identified := by
    obtain ⟨id, hid⟩ := h
    exact ⟨id, hid, hid⟩
  content := .inl rfl

theorem Document.Copies.id_eq {d e : Document} (h : d.Copies e) : d.id? = e.id? := by
  obtain ⟨id, hd, he⟩ := h.identified
  rw [hd, he]

/-- A copy stays one when the content changes to the same. -/
theorem Document.Copies.trans_same {d e e' : Document} {id : String} (h : d.Copies e)
    (hid : e.id? = some id) (hid' : e'.id? = some id) (hs : e.same e' = true) :
    d.Copies e' where
  identified := ⟨id, h.id_eq.trans hid, hid'⟩
  content := by
    rcases h.content with rfl | hd
    · exact .inr hs
    · exact .inr (Document.same_trans hd hs)

namespace Memory

/-! ## Lists of copies -/

section Forall₂

variable {α β : Type} {R : α → β → Prop} {as : List α} {bs : List β}

theorem forall₂_set (h : List.Forall₂ R as bs) (k : Nat) {a : α} {b : β} (hab : R a b) :
    List.Forall₂ R (as.set k a) (bs.set k b) := by
  induction h generalizing k with
  | nil => exact .nil
  | cons hr hrs ih =>
    cases k with
    | zero => exact .cons hab hrs
    | succ k => exact .cons hr (ih k)

/-- Only the second list changes. -/
theorem forall₂_set_right (h : List.Forall₂ R as bs) {k : Nat} {b b' : β} (hk : bs[k]? = some b)
    (hb : ∀ a, R a b → R a b') : List.Forall₂ R as (bs.set k b') := by
  induction h generalizing k with
  | nil => cases hk
  | cons hr hrs ih =>
    cases k with
    | zero =>
      cases hk
      exact .cons (hb _ hr) hrs
    | succ k => exact .cons hr (ih hk)

theorem forall₂_eraseIdx (h : List.Forall₂ R as bs) (k : Nat) :
    List.Forall₂ R (as.eraseIdx k) (bs.eraseIdx k) := by
  induction h generalizing k with
  | nil => exact .nil
  | cons hr hrs ih =>
    cases k with
    | zero => exact hrs
    | succ k => exact .cons hr (ih k)

end Forall₂

/-- Identifiers are found in the same places. -/
theorem findIdx?_of_copies {docs docs' : List Document}
    (h : List.Forall₂ Document.Copies docs docs') (id : String) :
    docs.findIdx? (·.id? == some id) = docs'.findIdx? (·.id? == some id) := by
  induction h with
  | nil => rfl
  | cons hd _ ih => rw [List.findIdx?_cons, List.findIdx?_cons, hd.id_eq, ih]

/-! ## One write -/

variable {c : Collection} {name : String} {docs : List Document}

theorem replay_insert (docs : List Document) (name id : String) (d : Document) :
    Change.replay docs (.ofDocument name .insert (some (d.withId id))) = docs ++ [d.withId id] :=
  rfl

theorem replay_replace {id : String} {place : Nat}
    (h : docs.findIdx? (·.id? == some id) = some place) (name : String) (d : Document) :
    Change.replay docs (.ofDocument name .replace (some (d.withId id))) =
      docs.set place (d.withId id) := by
  rw [Change.ofDocument, Option.bind_some, Document.id?_withId, Change.replay, h]

theorem replay_delete {id : String} {place : Nat}
    (h : docs.findIdx? (·.id? == some id) = some place) (name : String) :
    Change.replay docs ((Change.ofDocument name .delete none).withId id) =
      docs.eraseIdx place := by
  rw [Change.ofDocument, Change.withId, Change.replay, List.eraseP_eq_eraseIdx, h]

/-- A write that is not refused takes copies to copies. -/
theorem Collection.Applied.copies {w : Write} {e : Effect} (he : c.Applied name w e)
    (h : List.Forall₂ Document.Copies docs c.documents) :
    List.Forall₂ Document.Copies (e.changes.foldl Change.replay docs) e.collection.documents := by
  have hw (d : Document) (id : String) : (d.withId id).Copies (d.withId id) :=
    Document.copies_self ⟨id, Document.id?_withId id d⟩
  cases he with
  | @inserted id d | @upserted id d =>
    rw [List.foldl_cons, replay_insert]
    exact List.rel_append h (.cons (hw d id) .nil)
  | unmatched | absent => exact h
  | @confirmed id d old upsert place hp ho _ hs =>
    obtain ⟨old', ho', hid⟩ := Collection.id?_of_position hp
    rw [ho, Option.some_inj] at ho'
    subst ho'
    exact forall₂_set_right h ho fun d' hd' => hd'.trans_same hid (Document.id?_withId id d) hs
  | @modified id d old upsert place hp =>
    rw [List.foldl_cons, replay_replace ((findIdx?_of_copies h id).trans hp)]
    exact forall₂_set h place (hw d id)
  | @deleted id place hp =>
    rw [List.foldl_cons, replay_delete ((findIdx?_of_copies h id).trans hp)]
    exact forall₂_eraseIdx h place

/-! ## Runs -/

theorem copies_run (ws : List Write) (h : List.Forall₂ Document.Copies docs c.documents) :
    List.Forall₂ Document.Copies ((c.run name ws).changes.foldl Change.replay docs)
      (c.run name ws).collection.documents := by
  induction ws generalizing c docs with
  | nil => exact h
  | cons w ws ih =>
    cases ha : c.apply name w with
    | error err =>
      rw [Collection.run_cons_error ha]
      exact h
    | ok e =>
      rw [Collection.run_cons_ok ha]
      show List.Forall₂ _ ((e.changes ++ _).foldl _ docs) _
      rw [List.foldl_append]
      exact ih ((Collection.applied_of_apply ha).copies h)

theorem Moves.copies {c' : Collection} {changes : List Change} (hm : Moves name c changes c')
    (h : List.Forall₂ Document.Copies docs c.documents) :
    List.Forall₂ Document.Copies (changes.foldl Change.replay docs) c'.documents := by
  cases hm with
  | keep => exact h
  | write ws => exact copies_run ws h
  | drop => exact .nil
  | addIndex hi =>
    rw [documents_addIndex hi]
    exact h
  | dropIndex hi =>
    rw [documents_dropIndex hi]
    exact h

theorem copies_after (steps : List Step) {s : Store}
    (h : List.Forall₂ Document.Copies docs (s.documents name)) :
    List.Forall₂ Document.Copies ((s.changes name steps).foldl Change.replay docs)
      ((s.after steps).documents name) := by
  induction steps generalizing s docs with
  | nil => exact h
  | cons a steps ih =>
    rw [Store.changes, List.foldl_append]
    exact ih ((a.moves s name).copies h)

/-- **Replayed changes follow the collection.** Whatever the steps are and whether they fail, the
replayed copy of a collection has its length, and in each place an identifier that is that of the
stored document and content that is equal or the same. -/
theorem replay_copies {s : Store} (hs : Reachable s) (name : String) (steps : List Step) :
    List.Forall₂ Document.Copies ((s.changes name steps).foldl Change.replay (s.documents name))
      ((s.after steps).documents name) :=
  copies_after steps (List.forall₂_same.2 fun d hd =>
    Document.copies_self ((hs.wellFormed name).identified d hd))

/-- A zero that loses its sign makes no change, and the copy keeps the sign. -/
theorem replay_copies_of_zeros :
    let s := ({} : Store).after
      [.call (.bulkWrite "c" [.insert "a" [("x", .double (.zero true))]])]
    let steps := [Step.call (.bulkWrite "c" [.replace "a" [("x", .double (.zero false))] false])]
    s.changes "c" steps = [] ∧
      List.Forall₂ Document.Copies ((s.changes "c" steps).foldl Change.replay (s.documents "c"))
        ((s.after steps).documents "c") := by
  intro s steps
  have hs : Reachable s := ⟨.still, _, rfl⟩
  exact ⟨by rfl, replay_copies hs "c" steps⟩

end Memory

end DocumentDb
