import DocumentDb.Proofs.Memory.Call
import Mathlib.Data.List.Dedup
import Mathlib.Logic.Function.Basic

/-!
# The history of writes tells what a collection holds

The history of a collection are the writes made on it since it was last dropped, each with its own
counts.

**Effective writes** (`Made.effective`) are inserts, replacements that have found or added a
document, and deletions that have removed one. What an identifier stands for (`content`) is told by
the last effective write to it.

**Arrivals** (`arrivals`). An identifier arrives with an insert, or with a replacement that adds the
document. The identifiers stand in the order of their last arrivals.

**Theorem (`documents_of_history`).** A collection holds the contents of the identifiers that have
arrived, in the order of their arrivals, and finds under an identifier its content. A call leaves
all collections alone but the one that it is about.
-/

namespace DocumentDb

/-- The collection that a call is about. -/
def Call.target : Call → Option String
  | insert name _ | replace name _ _ | delete name _ | get name _ | find name _ | count name _
  | aggregate name _ | bulkWrite name _ | createCollection name | dropCollection name
  | addIndex name _ _ | dropIndex name _ => some name
  | listCollections => none

namespace Memory

/-! ## Histories -/

/-- A write that was not refused, with its own counts. -/
structure Made where
  write : Write
  counts : WriteSummary

namespace Made

/-- The identifier that a write is about. -/
def id (m : Made) : String :=
  m.write.id

/-- Whether a write has put, changed or removed a document. -/
def effective (m : Made) : Bool :=
  match m.write with
  | .insert .. => true
  | .replace .. => m.counts.matched != 0 || m.counts.upserted != 0
  | .delete _ => m.counts.deleted != 0

/-- Whether a write has added a document. -/
def arrives (m : Made) : Bool :=
  match m.write with
  | .insert .. => true
  | .replace .. => m.counts.upserted != 0
  | .delete _ => false

/-- The document that an effective write leaves under its identifier. -/
def leaves (m : Made) : Option Document :=
  match m.write with
  | .insert id d | .replace id d _ => some (d.withId id)
  | .delete _ => none

theorem id?_of_leaves {m : Made} {d : Document} (h : m.leaves = some d) : d.id? = some m.id := by
  obtain ⟨w, counts⟩ := m
  cases w with
  | insert id d' | replace id d' upsert =>
    cases h
    exact Document.id?_withId id d'
  | delete id => cases h

end Made

/-- What an identifier stands for: what the last effective write to it has left. -/
def content (h : List Made) (id : String) : Option Document :=
  (h.reverse.find? fun m => m.effective && m.id == id).bind Made.leaves

/-- The identifiers that have arrived, each in the place of its last arrival. -/
def arrivals (h : List Made) : List String :=
  ((h.filter Made.arrives).map Made.id).dedup

/-- Those of some writes that are made on a collection, up to the first that is refused. -/
def Collection.made (c : Collection) (name : String) : List Write → List Made
  | [] => []
  | w :: ws =>
    match c.apply name w with
    | .error _ => []
    | .ok e => ⟨w, e.summary⟩ :: made e.collection name ws

/-- The history of a collection after a step: it grows by what is made, and ends with a drop. -/
def Step.history (s : Store) (name : String) (h : List Made) : Step → List Made
  | .call (.dropCollection other) => if other = name then [] else h
  | .call c =>
    match c.writes with
    | some (other, ws) => if other = name then h ++ (s.collection name).made name ws else h
    | none => h
  | _ => h

/-- The history of a collection after some steps. -/
def Store.history (s : Store) (name : String) (h : List Made) : List Step → List Made
  | [] => h
  | a :: steps => (a.after s).history name (a.history s name h) steps

/-! ## Histories that grow by one write -/

variable {h : List Made} {m : Made} {id : String} {d : Document}

theorem id?_of_content (h : List Made) (id : String) (d : Document) (hd : content h id = some d) :
    d.id? = some id := by
  obtain ⟨m, hm, hl⟩ := Option.bind_eq_some_iff.1 hd
  have := List.find?_some hm
  simp only [Bool.and_eq_true, beq_iff_eq] at this
  rw [Made.id?_of_leaves hl, this.2]

theorem content_concat_of_effective (hm : m.effective = true) :
    content (h ++ [m]) = Function.update (content h) m.id m.leaves := by
  funext id
  by_cases hid : id = m.id
  · subst hid
    simp [content, hm]
  · simp [content, Function.update_of_ne hid, Ne.symm hid]

theorem content_concat_of_not_effective (hm : m.effective = false) :
    content (h ++ [m]) = content h := by
  funext id
  simp [content, hm]

theorem nodup_arrivals (h : List Made) : (arrivals h).Nodup :=
  List.nodup_dedup _

theorem dedup_concat (ids : List String) (id : String) :
    (ids ++ [id]).dedup = ids.dedup.filter (· != id) ++ [id] := by
  induction ids with
  | nil => simp
  | cons x ids ih =>
    by_cases hx : x ∈ ids
    · rw [List.cons_append, List.dedup_cons_of_mem (List.mem_append_left _ hx),
        List.dedup_cons_of_mem hx, ih]
    · by_cases hid : x = id
      · subst hid
        rw [List.cons_append, List.dedup_cons_of_mem (by simp), List.dedup_cons_of_notMem hx, ih]
        simp
      · rw [List.cons_append, List.dedup_cons_of_notMem (by simp [hx, hid]),
          List.dedup_cons_of_notMem hx, ih]
        simp [hid]

theorem arrivals_concat_of_arrives (hm : m.arrives = true) :
    arrivals (h ++ [m]) = (arrivals h).filter (· != m.id) ++ [m.id] := by
  simp [arrivals, List.filter_append, hm, dedup_concat]

theorem arrivals_concat_of_not_arrives (hm : m.arrives = false) :
    arrivals (h ++ [m]) = arrivals h := by
  simp [arrivals, List.filter_append, hm]

/-! ## Contents in the order of their identifiers -/

section Contents

variable {f : String → Option Document} {ids : List String}

/-- The place of an identifier among the contents of some identifiers is its place among them. -/
theorem exists_split_of_findIdx? (hf : ∀ id d, f id = some d → d.id? = some id) (hn : ids.Nodup)
    {place : Nat} (hp : (ids.filterMap f).findIdx? (·.id? == some id) = some place) :
    ∃ as bs old, ids = as ++ id :: bs ∧ id ∉ as ∧ id ∉ bs ∧ f id = some old ∧
      place = (as.filterMap f).length := by
  obtain ⟨hlt, hid, hbefore⟩ := List.findIdx?_eq_some_iff_getElem.1 hp
  obtain ⟨x, hx, hfx⟩ := List.mem_filterMap.1 (List.getElem_mem hlt)
  obtain rfl : x = id := by
    rw [hf x _ hfx] at hid
    simpa using hid
  obtain ⟨as, bs, rfl⟩ := List.append_of_mem hx
  have hna : x ∉ as := fun h => (List.nodup_append.1 hn).2.2 x h x List.mem_cons_self rfl
  have hnb : x ∉ bs := (List.nodup_cons.1 (List.nodup_append.1 hn).2.1).1
  refine ⟨as, bs, _, rfl, hna, hnb, hfx, ?_⟩
  have ha : (as.filterMap f).findIdx? (·.id? == some x) = none := by
    refine List.findIdx?_eq_none_iff.2 fun d hd => ?_
    obtain ⟨y, hy, hfy⟩ := List.mem_filterMap.1 hd
    rw [hf y d hfy]
    simpa using ne_of_mem_of_not_mem hy hna
  rw [List.filterMap_append, List.filterMap_cons_some hfx, List.findIdx?_append, ha,
    List.findIdx?_cons, if_pos hid] at hp
  simpa using hp.symm

theorem filterMap_update_of_notMem (h : id ∉ ids) (o : Option Document) :
    ids.filterMap (Function.update f id o) = ids.filterMap f :=
  List.filterMap_congr fun _ hx => Function.update_of_ne (ne_of_mem_of_not_mem hx h) o f

theorem filterMap_update_some (hf : ∀ id d, f id = some d → d.id? = some id) (hn : ids.Nodup)
    {place : Nat} (hp : (ids.filterMap f).findIdx? (·.id? == some id) = some place) :
    ids.filterMap (Function.update f id (some d)) = (ids.filterMap f).set place d := by
  obtain ⟨as, bs, old, rfl, ha, hb, hold, rfl⟩ := exists_split_of_findIdx? hf hn hp
  rw [List.filterMap_append, List.filterMap_cons_some (Function.update_self ..),
    filterMap_update_of_notMem ha, filterMap_update_of_notMem hb, List.filterMap_append,
    List.filterMap_cons_some hold]
  simp

theorem filterMap_update_none (hf : ∀ id d, f id = some d → d.id? = some id) (hn : ids.Nodup)
    {place : Nat} (hp : (ids.filterMap f).findIdx? (·.id? == some id) = some place) :
    ids.filterMap (Function.update f id none) = (ids.filterMap f).eraseIdx place := by
  obtain ⟨as, bs, old, rfl, ha, hb, hold, rfl⟩ := exists_split_of_findIdx? hf hn hp
  rw [List.filterMap_append, List.filterMap_cons_none (Function.update_self ..),
    filterMap_update_of_notMem ha, filterMap_update_of_notMem hb, List.filterMap_append,
    List.filterMap_cons_some hold]
  simp [List.eraseIdx_append_of_length_le]

/-- An identifier without content may be left out. -/
theorem filterMap_filter_ne (h : f id = none) :
    (ids.filter (· != id)).filterMap f = ids.filterMap f := by
  rw [List.filterMap_filter]
  refine List.filterMap_congr fun x _ => ?_
  by_cases hx : x = id
  · subst hx
    simp [h]
  · simp [hx]

end Contents

/-! ## Collections that follow a history -/

/-- A collection holds the contents of the identifiers that have arrived, in the order of their
arrivals, and no other identifier has content. -/
structure Collection.Follows (c : Collection) (h : List Made) : Prop where
  documents : c.documents = (arrivals h).filterMap (content h)
  arrived : ∀ id d, content h id = some d → id ∈ arrivals h

namespace Collection.Follows

variable {c : Collection} {name : String}

theorem empty : Follows {} [] :=
  ⟨rfl, fun _ _ h => nomatch h⟩

theorem find? (hc : c.Follows h) (id : String) : c.find? id = content h id := by
  cases hf : c.find? id with
  | some d =>
    have hid : d.id? = some id := by simpa using List.find?_some hf
    have hm := List.mem_of_find?_eq_some hf
    rw [hc.documents] at hm
    obtain ⟨x, -, hx⟩ := List.mem_filterMap.1 hm
    obtain rfl : x = id := Option.some.inj ((id?_of_content h x d hx).symm.trans hid)
    exact hx.symm
  | none =>
    cases hd : content h id with
    | none => rfl
    | some d =>
      have hm : d ∈ c.documents := by
        rw [hc.documents]
        exact List.mem_filterMap.2 ⟨id, hc.arrived id d hd, hd⟩
      exact absurd (id?_of_content h id d hd) (by simpa using List.find?_eq_none.1 hf d hm)

theorem content_eq_none (hc : c.Follows h) (hp : c.position m.id = none) :
    content h m.id = none := by
  rw [← hc.find? m.id]
  exact List.find?_eq_none.2 fun d hd => by simpa using position_eq_none_iff.1 hp d hd

theorem mem_arrivals (hc : c.Follows h) {place : Nat} (hp : c.position id = some place) :
    id ∈ arrivals h := by
  rw [position, hc.documents] at hp
  obtain ⟨as, bs, old, hs, -⟩ := exists_split_of_findIdx? (id?_of_content h) (nodup_arrivals h) hp
  simp [hs]

/-- A write without effect. -/
theorem pass (hc : c.Follows h) (hm : m.effective = false) (ha : m.arrives = false) :
    c.Follows (h ++ [m]) where
  documents := by
    rw [arrivals_concat_of_not_arrives ha, content_concat_of_not_effective hm]
    exact hc.documents
  arrived := by
    rw [arrivals_concat_of_not_arrives ha, content_concat_of_not_effective hm]
    exact hc.arrived

/-- A document comes. -/
theorem push (hc : c.Follows h) (hm : m.effective = true) (ha : m.arrives = true)
    (hd : m.leaves = some d) (hp : c.position m.id = none) : (c.push d).Follows (h ++ [m]) where
  documents := by
    rw [arrivals_concat_of_arrives ha, content_concat_of_effective hm, List.filterMap_append,
      filterMap_update_of_notMem (by simp), filterMap_filter_ne (hc.content_eq_none hp),
      ← hc.documents]
    simp [Collection.push, hd]
  arrived id e he := by
    rw [arrivals_concat_of_arrives ha]
    rw [content_concat_of_effective hm] at he
    by_cases hid : id = m.id
    · simp [hid]
    · rw [Function.update_of_ne hid] at he
      simp [hid, hc.arrived id e he]

/-- A document is changed in its place. -/
theorem set (hc : c.Follows h) (hm : m.effective = true) (ha : m.arrives = false)
    (hd : m.leaves = some d) {place : Nat} (hp : c.position m.id = some place) :
    ({ c with documents := c.documents.set place d } : Collection).Follows (h ++ [m]) where
  documents := by
    rw [position, hc.documents] at hp
    rw [arrivals_concat_of_not_arrives ha, content_concat_of_effective hm, hd,
      filterMap_update_some (id?_of_content h) (nodup_arrivals h) hp, ← hc.documents]
  arrived id e he := by
    rw [arrivals_concat_of_not_arrives ha]
    rw [content_concat_of_effective hm] at he
    by_cases hid : id = m.id
    · subst hid
      exact hc.mem_arrivals hp
    · rw [Function.update_of_ne hid] at he
      exact hc.arrived id e he

/-- A document goes. -/
theorem eraseIdx (hc : c.Follows h) (hm : m.effective = true) (ha : m.arrives = false)
    (hd : m.leaves = none) {place : Nat} (hp : c.position m.id = some place) :
    ({ c with documents := c.documents.eraseIdx place } : Collection).Follows (h ++ [m]) where
  documents := by
    rw [position, hc.documents] at hp
    rw [arrivals_concat_of_not_arrives ha, content_concat_of_effective hm, hd,
      filterMap_update_none (id?_of_content h) (nodup_arrivals h) hp, ← hc.documents]
  arrived id e he := by
    rw [arrivals_concat_of_not_arrives ha]
    rw [content_concat_of_effective hm, hd] at he
    by_cases hid : id = m.id
    · simp [hid] at he
    · rw [Function.update_of_ne hid] at he
      exact hc.arrived id e he

theorem applied {w : Write} {e : Effect} (he : c.Applied name w e) (hc : c.Follows h) :
    e.collection.Follows (h ++ [⟨w, e.summary⟩]) := by
  cases he with
  | inserted hp | upserted hp => exact hc.push rfl rfl rfl hp
  | unmatched | absent => exact hc.pass rfl rfl
  | confirmed hp | modified hp => exact hc.set rfl rfl rfl hp
  | deleted hp => exact hc.eraseIdx rfl rfl rfl hp

end Collection.Follows

/-! ## Runs -/

variable {c : Collection} {name : String}

theorem Collection.made_cons_ok {w : Write} {ws : List Write} {e : Effect}
    (h : c.apply name w = .ok e) :
    c.made name (w :: ws) = ⟨w, e.summary⟩ :: e.collection.made name ws := by
  rw [made, h]

theorem Collection.made_cons_error {w : Write} {ws : List Write} {err : Error}
    (h : c.apply name w = .error err) : c.made name (w :: ws) = [] := by
  rw [made, h]

/-- The writes that are made are the first ones, and all of them exactly if the run has no error.
Their counts add up to those of the run. -/
theorem Collection.run_eq_made (ws : List Write) :
    (c.made name ws).map Made.write <+: ws ∧
      ((c.run name ws).error = none ↔ (c.made name ws).map Made.write = ws) ∧
      (c.run name ws).summary = ((c.made name ws).map Made.counts).foldr (· + ·) .none := by
  induction ws generalizing c with
  | nil => exact ⟨List.nil_prefix, iff_of_true rfl rfl, rfl⟩
  | cons w ws ih =>
    cases ha : c.apply name w with
    | error err =>
      rw [run_cons_error ha, made_cons_error ha]
      exact ⟨List.nil_prefix, by simp, rfl⟩
    | ok e =>
      obtain ⟨hpre, herr, hsum⟩ := ih (c := e.collection)
      rw [run_cons_ok ha, made_cons_ok ha]
      exact ⟨List.cons_prefix_cons.2 ⟨rfl, hpre⟩, by simpa using herr,
        congrArg (e.summary + ·) hsum⟩

theorem Collection.Follows.run (hc : c.Follows h) (ws : List Write) :
    (c.run name ws).collection.Follows (h ++ c.made name ws) := by
  induction ws generalizing c h with
  | nil => simpa [Collection.made, Collection.run_nil] using hc
  | cons w ws ih =>
    cases ha : c.apply name w with
    | error err =>
      rw [Collection.run_cons_error ha, Collection.made_cons_error ha, List.append_nil]
      exact hc
    | ok e =>
      rw [Collection.run_cons_ok ha, Collection.made_cons_ok ha, List.append_cons]
      exact ih (hc.applied (Collection.applied_of_apply ha))

/-- A call leaves all collections alone but the one that it is about. -/
theorem collection_after_of_ne {c : Call} {other : String} (hc : c.target ≠ some other)
    (s : Store) : (c.after backend s).collection other = s.collection other := by
  cases hw : c.writes with
  | some p =>
    obtain ⟨name, ws⟩ := p
    rw [after_of_writes hw]
    refine Store.collection_write_of_ne s name ws ?_
    rintro rfl
    cases c with
    | insert | replace | delete | bulkWrite =>
      cases hw
      exact hc rfl
    | _ => cases hw
  | none =>
    have hne {name : String} (hn : some name ≠ some other) : other ≠ name :=
      fun he => hn (congrArg some he.symm)
    cases c with
    | insert | replace | delete | bulkWrite => cases hw
    | get | find | count | aggregate | listCollections => rfl
    | createCollection name => exact Store.collection_createCollection s name other
    | dropCollection name => exact Store.collection_dropCollection_of_ne s name (hne hc)
    | addIndex name field unique =>
      exact (s.collection_addIndex other name field unique).resolve_right fun h => hne hc h.1
    | dropIndex name field =>
      exact (s.collection_dropIndex other name field).resolve_right fun h => hne hc h.1

theorem documents_addIndex_after (s : Store) (name other field : String) (unique : Bool) :
    ((s.addIndex other field unique).2).documents name = s.documents name := by
  rcases s.collection_addIndex name other field unique with h | ⟨-, h⟩
  · exact congrArg _ h
  · exact documents_addIndex h

theorem documents_dropIndex_after (s : Store) (name other field : String) :
    ((s.dropIndex other field).2).documents name = s.documents name := by
  rcases s.collection_dropIndex name other field with h | ⟨-, h⟩
  · exact congrArg _ h
  · exact documents_dropIndex h

theorem Collection.Follows.of_documents_eq {c' : Collection} (hc : c.Follows h)
    (hd : c'.documents = c.documents) : c'.Follows h :=
  ⟨hd.trans hc.documents, hc.arrived⟩

theorem Collection.Follows.write {s : Store} (hc : (s.collection name).Follows h) {c : Call}
    {other : String} {ws : List Write} (hw : c.writes = some (other, ws)) :
    ((c.after backend s).collection name).Follows
      (if other = name then h ++ (s.collection name).made name ws else h) := by
  rw [after_of_writes hw]
  split
  · next hn =>
    subst hn
    rw [Store.collection_write_self]
    exact hc.run ws
  · next hn =>
    rw [Store.collection_write_of_ne s other ws (Ne.symm hn)]
    exact hc

theorem Collection.Follows.step {s : Store} (hc : (s.collection name).Follows h) (a : Step) :
    ((a.after s).collection name).Follows (a.history s name h) := by
  cases a with
  | attach | setRunning => exact hc
  | call c =>
    cases c with
    | insert | replace | delete | bulkWrite => exact hc.write rfl
    | get | find | count | aggregate | listCollections => exact hc
    | createCollection other =>
      exact hc.of_documents_eq (congrArg _ (Store.collection_createCollection s other name))
    | addIndex other field unique =>
      exact hc.of_documents_eq (documents_addIndex_after s name other field unique)
    | dropIndex other field =>
      exact hc.of_documents_eq (documents_dropIndex_after s name other field)
    | dropCollection other =>
      show ((s.dropCollection other).collection name).Follows (if other = name then [] else h)
      split
      · next hn =>
        subst hn
        rw [Store.collection_dropCollection_self]
        exact .empty
      · next hn =>
        rw [Store.collection_dropCollection_of_ne s other (Ne.symm hn)]
        exact hc

theorem Collection.Follows.steps {s : Store} (hc : (s.collection name).Follows h)
    (steps : List Step) : ((s.after steps).collection name).Follows (s.history name h steps) := by
  induction steps generalizing s h with
  | nil => exact hc
  | cons a steps ih => exact ih (hc.step a)

/-- **The history tells what a collection holds.** After any run from a store without collections,
whatever its steps are and whether they fail, an identifier is found exactly if the last effective
write to it since the last drop has left a document, and it is that document. All documents stand
in the order of the last arrivals of their identifiers. A call changes neither the documents nor
the indexes of any collection but its own. -/
theorem documents_of_history (shuffle : Shuffle) (steps : List Step) (name : String) :
    let s := ({ shuffle := shuffle } : Store).after steps
    let h := ({ shuffle := shuffle } : Store).history name [] steps
    (∀ id, s.getDocuments name [id] = (content h id).toList) ∧
      s.findDocuments name none = .ok ((arrivals h).filterMap (content h)) ∧
      (∀ id d, content h id = some d → id ∈ arrivals h) ∧
      ∀ (t : Store) (c : Call) (other : String), c.target ≠ some other →
        (c.after backend t).collection other = t.collection other := by
  intro s h
  have h0 : (({ shuffle := shuffle } : Store).collection name).Follows [] := .empty
  have hc : (s.collection name).Follows h := h0.steps steps
  refine ⟨fun id => ?_, ?_, hc.arrived, fun t c other ho => collection_after_of_ne ho t⟩
  · rw [Store.getDocuments, ← hc.find? id]
    cases hf : (s.collection name).find? id <;> simp [hf]
  · rw [Store.findDocuments, Store.documents, hc.documents]
    rfl

end Memory

end DocumentDb
