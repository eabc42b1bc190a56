import DocumentDb.Proofs.Memory.Prefix
import DocumentDb.Proofs.Memory.Single
import DocumentDb.Proofs.Result
import DocumentDb.Proofs.Value.NaN
import DocumentDb.Records.Person
import DocumentDb.Typed.Store

/-!
# Upserting twice

A replacement puts its document where a document with the same identifier stands. If that document
is there already, it goes to its own place: nothing moves, and no unique index can be in its way,
since the index tells it from all the others.

**What upserts leave** (`Collection.Holds`). Upserts under different identifiers leave every one of
their documents under its identifier, since none of them touches what another one has left. On a
collection that holds the documents, the same upserts find them all (`run_upserts_of_holds`).

**Theorem (`upsertMany_idempotent`).** An upsert of records that was made can be made again, and the
second time it changes no collection. It counts nothing but found documents, and delivers nothing,
unless a document holds a NaN, which always counts as modified.
-/

namespace DocumentDb

namespace Memory

namespace Collection

variable {c : Collection} {name id other : String} {d : Document} {e : Effect}

/-! ## Finding what was put -/

/-- Where the document with an identifier is replaced by one with the same identifier, every
identifier leads to the same place as before. -/
theorem find?_put_of_stores (hd : d.id? = some id) (hs : c.Stores id) (other : String) :
    (c.put id d).find? other =
      (c.find? other).map fun e => if e.id? = some id then d else e := by
  rw [put, if_pos hs, find?, find?, List.find?_map]
  congr 2
  funext e
  rw [Function.comp_apply]
  split
  · next he => rw [hd, he]
  · rfl

theorem find?_put_self (hd : d.id? = some id) : (c.put id d).find? id = some d := by
  by_cases hs : c.Stores id
  · rw [find?_put_of_stores hd hs]
    cases hf : c.find? id with
    | none => exact (find?_eq_none_iff_not_stores.1 hf hs).elim
    | some e => rw [Option.map_some, if_pos (id?_of_find? hf)]
  · rw [put, if_neg hs, find?, push, List.find?_append, ← find?,
      find?_eq_none_iff_not_stores.2 hs]
    simp [hd]

theorem find?_put_of_ne (hd : d.id? = some id) (h : other ≠ id) :
    (c.put id d).find? other = c.find? other := by
  by_cases hs : c.Stores id
  · rw [find?_put_of_stores hd hs]
    cases hf : c.find? other with
    | none => rfl
    | some e =>
      have he : e.id? ≠ some id := by simpa [id?_of_find? hf] using h
      rw [Option.map_some, if_neg he]
  · rw [put, if_neg hs, find?, push, List.find?_append, ← find?]
    simp [hd, Ne.symm h]

/-! ## Several upserts -/

/-- The upserts of some documents under their identifiers. -/
def upserts (docs : List (String × Document)) : List Write :=
  docs.map fun p => .replace p.1 p.2 true

theorem upserts_cons (p : String × Document) (docs : List (String × Document)) :
    upserts (p :: docs) = .replace p.1 p.2 true :: upserts docs := rfl

/-- Every document is there under its identifier. -/
def Holds (c : Collection) (docs : List (String × Document)) : Prop :=
  ∀ p ∈ docs, c.find? p.1 = some (p.2.withId p.1)

theorem WellFormed.find?_of_replace (h : c.WellFormed)
    (he : c.apply name (.replace id d true) = .ok e) (other : String) :
    e.collection.find? other = if other = id then some (d.withId id) else c.find? other := by
  rw [h.collection_of_replace he, if_pos (.inr rfl)]
  split
  · next ho => rw [ho, find?_put_self (Document.id?_withId id d)]
  · next ho => exact find?_put_of_ne (Document.id?_withId id d) ho

/-- Upserts leave the documents under other identifiers alone. -/
theorem WellFormed.find?_upserts (h : c.WellFormed) {docs : List (String × Document)}
    (hid : id ∉ docs.map Prod.fst) :
    (c.run name (upserts docs)).collection.find? id = c.find? id := by
  induction docs generalizing c with
  | nil => rfl
  | cons p docs ih =>
    obtain ⟨hne, hid⟩ := List.ne_and_not_mem_of_not_mem_cons hid
    cases ha : c.apply name (.replace p.1 p.2 true) with
    | error err => rw [upserts_cons, run_cons_error ha]
    | ok e =>
      have he := h.applied (applied_of_apply ha)
      rw [upserts_cons, run_cons_ok ha]
      calc (e.collection.run name (upserts docs)).collection.find? id
        _ = e.collection.find? id := ih he hid
        _ = c.find? id := by rw [h.find?_of_replace ha, if_neg hne]

/-- Upserts under different identifiers that are all made leave every document under its
identifier. -/
theorem WellFormed.holds_of_upserts (h : c.WellFormed) {docs : List (String × Document)}
    (hn : (docs.map Prod.fst).Nodup) (hr : (c.run name (upserts docs)).error = none) :
    (c.run name (upserts docs)).collection.Holds docs := by
  induction docs generalizing c with
  | nil => exact fun p hp => nomatch hp
  | cons p docs ih =>
    obtain ⟨hp, hn⟩ := List.nodup_cons.1 hn
    rw [upserts_cons] at hr ⊢
    cases ha : c.apply name (.replace p.1 p.2 true) with
    | error err =>
      rw [run_cons_error ha] at hr
      cases hr
    | ok e =>
      have he := h.applied (applied_of_apply ha)
      rw [run_cons_ok ha] at hr ⊢
      refine List.forall_mem_cons.2 ⟨?_, ih he hn hr⟩
      calc (e.collection.run name (upserts docs)).collection.find? p.1
        _ = e.collection.find? p.1 := he.find?_upserts hp
        _ = some (p.2.withId p.1) := by rw [h.find?_of_replace ha, if_pos rfl]

/-! ## Upserting what is there -/

theorem position_of_find? (hf : c.find? id = some d) :
    ∃ place, c.position id = some place ∧ c.documents[place]? = some d := by
  obtain ⟨hd, place, hlt, hget, hbefore⟩ := List.find?_eq_some_iff_getElem.1 hf
  refine ⟨place, List.findIdx?_eq_some_iff_getElem.2 ⟨hlt, hget ▸ hd, fun j hj => ?_⟩,
    hget ▸ List.getElem?_eq_getElem hlt⟩
  simpa using hbefore j hj

/-- The order tells the values of a stored document at the unique indexes from those of all
others. -/
theorem WellFormed.admits_of_getElem? (h : c.WellFormed) {place : Nat}
    (hd : c.documents[place]? = some d) : c.Admits (c.documents.eraseIdx place) d :=
  fun i hi hu _ he => rel_of_mem_eraseIdx i.alike_symm (h.separated i hi hu) hd he

/-- A document that is there goes to its own place. It counts as modified only if it is not the same
as itself. -/
theorem WellFormed.replace_of_find? (h : c.WellFormed) (hf : c.find? id = some (d.withId id)) :
    c.apply name (.replace id d true) = .ok ⟨c,
      { matched := 1, modified := if (d.withId id).same (d.withId id) then 0 else 1 },
      if (d.withId id).same (d.withId id) then []
      else [.ofDocument name .replace (some (d.withId id))]⟩ := by
  obtain ⟨place, hp, hd⟩ := position_of_find? hf
  have hset : c.documents.set place (d.withId id) = c.documents := by
    obtain ⟨hlt, hget⟩ := List.getElem?_eq_some_iff.1 hd
    rw [← hget, List.set_getElem_self]
  rw [apply, replace_of_position_some hp, overwrite_eq_ok_iff hd, hset]
  exact ⟨h.admits_of_getElem? hd, rfl⟩

/-- Documents that are there are all found again, and nothing is changed by it. -/
theorem WellFormed.run_upserts_of_holds (h : c.WellFormed) {docs : List (String × Document)}
    (hd : c.Holds docs) :
    (c.run name (upserts docs)).collection = c ∧ (c.run name (upserts docs)).error = none ∧
      ((∀ p ∈ docs, (p.2.withId p.1).same (p.2.withId p.1) = true) →
        (c.run name (upserts docs)).summary = { matched := docs.length } ∧
          (c.run name (upserts docs)).changes = []) := by
  induction docs with
  | nil => exact ⟨rfl, rfl, fun _ => ⟨rfl, rfl⟩⟩
  | cons p docs ih =>
    obtain ⟨hp, hd⟩ := List.forall_mem_cons.1 hd
    obtain ⟨hcol, herr, hsame⟩ := ih hd
    rw [upserts_cons, run_cons_ok (h.replace_of_find? hp)]
    refine ⟨hcol, herr, fun hall => ?_⟩
    obtain ⟨hs, hall⟩ := List.forall_mem_cons.1 hall
    obtain ⟨hsum, hch⟩ := hsame hall
    rw [hsum, hch, hs]
    exact ⟨congrArg (WriteSummary.mk 0 · 0 0 0) (Nat.add_comm ..), rfl⟩

end Collection

/-! ## Stores -/

theorem Store.publish_nil (s : Store) (name : String) : s.publish name [] = s := by
  have hd : (s.monitor name).deliver [] = [] := by
    rw [Monitor.deliver]
    split <;> rfl
  rw [publish, hd, List.append_nil]

theorem Store.get?_write (s : Store) (name : String) (ws : List Write) :
    (s.write name ws).2.collections.get? name =
      some ((s.collection name).run name ws).collection :=
  Assoc.get?_insert_self ..

/-- Writes that leave their collection as it is leave the collections and monitors of the store as
they are. -/
theorem Store.write_of_collection_eq {s : Store} {name : String} {ws : List Write} {c : Collection}
    (hs : s.collections.get? name = some c) (hc : (c.run name ws).collection = c)
    (he : (c.run name ws).error = none) :
    s.write name ws = (.ok (c.run name ws).summary, s.publish name (c.run name ws).changes) := by
  have hcol : s.collection name = c := by rw [collection, hs, Option.getD_some]
  rw [write, hcol, he, hc, setCollection, Assoc.insert_eq_self hs]

end Memory

namespace TypedCollection

variable {σ α : Type} [Record α] {c : TypedCollection σ α} {a : α} {as : List α}
  {p : String × Document} {docs : List (String × Document)}

theorem fst_of_encode (h : c.encode a = .ok p) : p.1 = (Record.id a).value := by
  rw [encode] at h
  cases hd : c.converter.toDocument a <;> rw [hd] at h <;> cases h
  rfl

theorem map_fst_of_encodeAll (h : c.encodeAll as = .ok docs) :
    docs.map Prod.fst = as.map fun a => (Record.id a).value := by
  induction as generalizing docs with
  | nil =>
    cases h
    rfl
  | cons a as ih =>
    rw [encodeAll, List.mapM_cons, bind_eq_ok_iff] at h
    obtain ⟨p, hp, h⟩ := h
    obtain ⟨ps, hps, rfl⟩ := bind_pure_eq_ok_iff.1 h
    rw [List.map_cons, List.map_cons, fst_of_encode hp, ih hps]

theorem run_upsertMany {c : TypedCollection Memory.Store α} (hc : c.backend = Memory.backend)
    (he : c.encodeAll as = .ok docs) (s : Memory.Store) :
    (c.upsertMany as).run.run s =
      (classified (s.write c.name (Memory.Collection.upserts docs)).1,
        (s.write c.name (Memory.Collection.upserts docs)).2) := by
  rw [upsertMany, replaceMany, he, hc]
  rfl

theorem exists_encodeAll_of_upsertMany {s t : σ} {sum : WriteSummary}
    (h : (c.upsertMany as).run.run s = (.ok sum, t)) : ∃ docs, c.encodeAll as = .ok docs := by
  cases he : c.encodeAll as with
  | ok docs => exact ⟨docs, rfl⟩
  | error e =>
    rw [upsertMany, replaceMany, he] at h
    cases h

end TypedCollection

namespace Memory

variable {α : Type} [Record α] {c : TypedCollection Store α} {as : List α}
  {docs : List (String × Document)}

/-- What an upsert leaves that is made: the collection of its run, with every document under its
identifier. -/
theorem holds_of_upsertMany (hc : c.backend = backend) {s t : Store} (hs : Reachable s)
    (he : c.encodeAll as = .ok docs) (hd : (as.map fun a => (Record.id a).value).Nodup)
    {sum : WriteSummary} (h : (c.upsertMany as).run.run s = (.ok sum, t)) :
    ∃ k, t.collections.get? c.name = some k ∧ k.WellFormed ∧ k.Holds docs := by
  rw [TypedCollection.run_upsertMany hc he] at h
  obtain ⟨hres, rfl⟩ := Prod.mk.inj h
  have hw := hs.wellFormed c.name
  refine ⟨_, Store.get?_write s c.name _, Collection.run_keeps Collection.WellFormed.applied _ hw,
    hw.holds_of_upserts (TypedCollection.map_fst_of_encodeAll he ▸ hd) ?_⟩
  cases hr : (s.write c.name (Collection.upserts docs)).1 with
  | ok sum' => exact (Store.write_eq_ok_iff.1 hr).1
  | error e =>
    rw [hr] at hres
    cases hres

/-- An upsert of documents that are there finds them all. -/
theorem upsertMany_of_holds (hc : c.backend = backend) (he : c.encodeAll as = .ok docs)
    {u : Store} {k : Collection} (hk : u.collections.get? c.name = some k) (hw : k.WellFormed)
    (hh : k.Holds docs) :
    ∃ sum u', (c.upsertMany as).run.run u = (.ok sum, u') ∧ u'.collections = u.collections ∧
      ((∀ p ∈ docs, ∃ d : KeyedDocument, d.document = p.2 ∧ p.2.hasNaN = false) →
        sum = { matched := as.length } ∧ u' = u) := by
  obtain ⟨hcol, herr, hsame⟩ :=
    @Collection.WellFormed.run_upserts_of_holds k c.name hw docs hh
  have hrun := TypedCollection.run_upsertMany hc he u
  rw [Store.write_of_collection_eq hk hcol herr] at hrun
  refine ⟨_, _, hrun, rfl, fun hdocs => ?_⟩
  have hself : ∀ p ∈ docs, (p.2.withId p.1).same (p.2.withId p.1) = true := by
    intro p hp
    obtain ⟨d, hd, hn⟩ := hdocs p hp
    rw [← hd] at hn ⊢
    exact d.same_self_withId hn p.1
  obtain ⟨hsum, hch⟩ := hsame hself
  have hlen : docs.length = as.length := by
    rw [← List.length_map Prod.fst, TypedCollection.map_fst_of_encodeAll he, List.length_map]
  rw [hsum, hch, hlen, Store.publish_nil]
  exact ⟨rfl, rfl⟩

/-- **Upserts are idempotent.** If an upsert of records with different identifiers is made, then the
same upsert is made again on the collections that it has left, whatever has become of the monitors
meanwhile, and leaves all collections as they are. If the documents of the records are maps and hold
no NaN, the second upsert counts each of them as found and as nothing else, and it leaves the whole
store as it is: nothing is delivered, whoever listens. -/
theorem upsertMany_idempotent (c : TypedCollection Store α) (hc : c.backend = backend)
    {s t : Store} (hs : Reachable s) {as : List α}
    (hd : (as.map fun a => (Record.id a).value).Nodup) {sum : WriteSummary}
    (h : (c.upsertMany as).run.run s = (.ok sum, t)) :
    ∃ docs, c.encodeAll as = .ok docs ∧ ∀ u : Store, u.collections = t.collections →
      ∃ sum' u', (c.upsertMany as).run.run u = (.ok sum', u') ∧ u'.collections = u.collections ∧
        ((∀ p ∈ docs, ∃ d : KeyedDocument, d.document = p.2 ∧ p.2.hasNaN = false) →
          sum' = { matched := as.length } ∧ u' = u) := by
  obtain ⟨docs, he⟩ := TypedCollection.exists_encodeAll_of_upsertMany h
  obtain ⟨k, hk, hw, hh⟩ := holds_of_upsertMany hc hs he hd h
  exact ⟨docs, he, fun u hu => upsertMany_of_holds hc he (hu ▸ hk) hw hh⟩

/-- Where names are unique, Ada gives her name to somebody else. Doing so again finds both of them
as they are. -/
theorem upsertMany_idempotent_for_namesakes :
    let people : TypedCollection Store Records.Person :=
      DocumentStore.collection Records.Person { backend := backend }
    let renamed : Records.Person := ⟨⟨"1", by decide⟩, "Bob", 36, []⟩
    let namesake : Records.Person := ⟨⟨"2", by decide⟩, "Ada", 41, []⟩
    let s := ({} : Store).after [.call (.addIndex "people" "name" true),
      .call (.bulkWrite "people"
        [.insert "1" (Records.Person.document ⟨⟨"1", by decide⟩, "Ada", 36, []⟩)])]
    let first := (people.upsertMany [renamed, namesake]).run.run s
    let u := first.2.overheard "people"
    first.1 = .ok { matched := 1, modified := 1, upserted := 1 } ∧
      (people.upsertMany [renamed, namesake]).run.run u = (.ok { matched := 2 }, u) := by
  intro people renamed namesake s first u
  have hfirst : first.1 = .ok { matched := 1, modified := 1, upserted := 1 } := by
    dsimp only [first, s, people, renamed, namesake]
    rfl
  have hmade : (people.upsertMany [renamed, namesake]).run.run s = (_, first.2) :=
    Prod.ext hfirst rfl
  obtain ⟨docs, he, hsecond⟩ :=
    upsertMany_idempotent people rfl ⟨.still, _, rfl⟩ (by decide) hmade
  obtain ⟨sum', u', hrun, -, hclean⟩ := hsecond u rfl
  cases he
  obtain ⟨rfl, rfl⟩ := hclean (List.forall_mem_cons.2 ⟨⟨{ document := renamed.document }, rfl, rfl⟩,
    List.forall_mem_singleton.2 ⟨{ document := namesake.document }, rfl, rfl⟩⟩)
  exact ⟨hfirst, hrun⟩

end Memory

end DocumentDb
