import DocumentDb.Proofs.Memory.Account
import DocumentDb.Proofs.Memory.Single
import DocumentDb.Proofs.Value.Canonical

/-!
# What counts as modified

A replacement puts the new content in the place of the old one, whatever the two are. Whether it
says that something has changed is decided by sameness, and sameness is not equality: it does not
mind the order of keys, takes the two zeros for one and tells a NaN from itself.

**Telling** (`TellsChange`). The count of modified documents is one and a change is delivered if the
document that is left differs from the one before in any way, and neither if it is just that one.

**Theorem (`modified_tells_iff`).** A replacement of a stored document tells exactly where sameness
of the two contents is equality, which the canonical forms of the contents decide.
-/

namespace DocumentDb.Memory

/-! ## Replacements -/

/-- The count of modified documents and the changes of a replacement tell whether the document that
it leaves is another one than before. -/
structure TellsChange (name : String) (old new : Document) (sum : WriteSummary)
    (changes : List Change) : Prop where
  changed : old ≠ new → sum.modified = 1 ∧ changes = [.ofDocument name .replace (some new)]
  unchanged : old = new → sum.modified = 0 ∧ changes = []

namespace Collection

variable {c : Collection} {name id : String} {d old : Document}

theorem find?_set_of_position {place : Nat} (hp : c.position id = some place)
    (hd : d.id? = some id) :
    ({ c with documents := c.documents.set place d } : Collection).find? id = some d := by
  obtain ⟨hlt, -, hbefore⟩ := List.findIdx?_eq_some_iff_getElem.1 hp
  refine List.find?_eq_some_iff_getElem.2 ⟨by simp [hd], place, ?_, ?_, fun j hj => ?_⟩
  · exact (List.length_set ..).symm ▸ hlt
  · exact List.getElem_set_self ..
  · rw [List.getElem_set_ne (Nat.ne_of_gt hj)]
    simpa using hbefore j hj

/-- What a replacement does to a stored document that is not refused. -/
theorem replaced_of_applied {upsert : Bool} {e : Effect} (ho : c.find? id = some old)
    (h : c.Applied name (.replace id d upsert) e) :
    e.collection.find? id = some (d.withId id) ∧
      e.summary.modified = (if old.same (d.withId id) then 0 else 1) ∧
      e.changes = if old.same (d.withId id) then []
        else [.ofDocument name .replace (some (d.withId id))] := by
  have hid : (d.withId id).id? = some id := Document.id?_withId id d
  cases h with
  | upserted hp | unmatched hp =>
    rw [find?_eq_none_of_position hp] at ho
    cases ho
  | confirmed hp ho' _ hs | modified hp ho' _ hs =>
    cases ho.symm.trans (find?_of_position hp ho')
    exact ⟨find?_set_of_position hp hid, by simp [hs], by simp [hs]⟩

end Collection

/-- Count and changes are decided by sameness, so they tell what they should exactly where sameness
is equality. -/
theorem tellsChange_iff {name : String} {old new : Document} {sum : WriteSummary}
    {changes : List Change} (hm : sum.modified = if old.same new then 0 else 1)
    (hc : changes = if old.same new then [] else [.ofDocument name .replace (some new)]) :
    TellsChange name old new sum changes ↔ (old.same new = true ↔ old = new) := by
  cases hs : old.same new with
  | true =>
    rw [hs, if_pos rfl] at hm hc
    refine ⟨fun h => ⟨fun _ => by_contra fun hne => ?_, fun _ => rfl⟩, fun h => ?_⟩
    · exact absurd (hm.symm.trans (h.changed hne).1) Nat.zero_ne_one
    · exact ⟨fun hne => (hne (h.1 rfl)).elim, fun _ => ⟨hm, hc⟩⟩
  | false =>
    rw [hs, if_neg Bool.false_ne_true] at hm hc
    refine ⟨fun h => ⟨fun hf => (Bool.false_ne_true hf).elim, fun he => ?_⟩, fun h => ?_⟩
    · exact absurd (hm.symm.trans (h.unchanged he).1) Nat.one_ne_zero
    · exact ⟨fun _ => ⟨hm, hc⟩, fun he => (Bool.false_ne_true (h.2 he)).elim⟩

/-- A call with a single write that succeeds makes it, and nothing else. -/
theorem Store.applied_of_write_singleton {s t : Store} {name : String} {w : Write}
    {sum : WriteSummary} (h : s.write name [w] = (.ok sum, t)) :
    (s.collection name).Applied name w
      ⟨t.collection name, sum, ((s.collection name).run name [w]).changes⟩ := by
  cases ha : (s.collection name).apply name w with
  | error err =>
    rw [write_singleton_of_error ha] at h
    cases h
  | ok e =>
    obtain ⟨hw, hc⟩ := write_singleton_of_ok ha
    rw [hw] at h
    cases h
    rw [← changes_bulk, hc, collection_publish, collection_setCollection_self]
    exact Collection.applied_of_apply ha

/-! ## Main result -/

/-- **What counts as modified.** A replacement of a stored document that is made leaves the new
content, under the identifier, in any case. It counts as modified, and delivers a change, exactly if
the old content is not the same as the new one. So it tells rightly whether the document has changed
exactly where sameness is equality; that is, of documents that are maps, if one that stays as it is
holds no NaN, and if one without NaN that becomes another one differs in more than the order of keys
and the signs of zeros. -/
theorem modified_tells_iff {s t : Store} {name id : String} {d old : Document} {upsert : Bool}
    {sum : WriteSummary} (ho : (s.collection name).find? id = some old)
    (h : s.replaceDocuments name [(id, d)] upsert = (.ok sum, t)) :
    let new := d.withId id
    let changes := (Step.call (.replace name [(id, d)] upsert)).changes s name
    (t.collection name).find? id = some new ∧
      sum.modified = (if old.same new then 0 else 1) ∧
      changes = (if old.same new then [] else [.ofDocument name .replace (some new)]) ∧
      (TellsChange name old new sum changes ↔ (old.same new = true ↔ old = new)) ∧
      ∀ k m : KeyedDocument, k.document = old → m.document = d →
        (TellsChange name old new sum changes ↔
          (old = new → old.hasNaN = false) ∧
            (old.hasNaN = false → old.canonical = new.canonical → old = new)) := by
  intro new changes
  have hchanges : changes = ((s.collection name).run name [.replace id d upsert]).changes :=
    changes_of_writes rfl s
  obtain ⟨hfind, hm, hc⟩ := Collection.replaced_of_applied ho (Store.applied_of_write_singleton h)
  have htells : TellsChange name old new sum changes ↔ (old.same new = true ↔ old = new) :=
    tellsChange_iff hm (hchanges.trans hc)
  refine ⟨hfind, hm, hchanges.trans hc, htells, fun k m hk hd => ?_⟩
  have hs : old.same new = true ↔ old.hasNaN = false ∧ old.canonical = new.canonical := by
    subst hk hd
    exact k.same_iff_canonical_eq (m.withId id)
  rw [htells, hs]
  constructor
  · exact fun h => ⟨fun he => (h.2 he).1, fun hn hcan => h.1 ⟨hn, hcan⟩⟩
  · rintro ⟨hnan, hcan⟩
    exact ⟨fun h => hcan h.1 h.2, fun he => ⟨hnan he, congrArg Document.canonical he⟩⟩

/-- Items that change places are a change that is told. -/
theorem modified_tells_of_moved_items :
    let s := ({} : Store).after
      [.call (.insert "c" [("a", [("x", .array [.int32 1, .int32 2])])])]
    let d : Document := [("x", .array [.int32 2, .int32 1])]
    let old : Document := [("_id", .string "a"), ("x", .array [.int32 1, .int32 2])]
    (s.collection "c").find? "a" = some old ∧
      (s.replaceDocuments "c" [("a", d)] false).1 = .ok { matched := 1, modified := 1 } ∧
      TellsChange "c" old (d.withId "a") { matched := 1, modified := 1 }
        ((Step.call (.replace "c" [("a", d)] false)).changes s "c") := by
  intro s d old
  have ho : (s.collection "c").find? "a" = some old := rfl
  have hsum : (s.replaceDocuments "c" [("a", d)] false).1 =
      .ok { matched := 1, modified := 1 } := by
    dsimp only [s, d]
    rfl
  have h : s.replaceDocuments "c" [("a", d)] false =
      (.ok { matched := 1, modified := 1 }, (s.replaceDocuments "c" [("a", d)] false).2) :=
    Prod.ext hsum rfl
  let k : KeyedDocument := { document := old }
  let m : KeyedDocument := { document := d }
  have hdiffer : old.same (d.withId "a") = false := by decide
  obtain ⟨-, -, -, -, htells⟩ := modified_tells_iff ho h
  refine ⟨ho, hsum, (htells k m rfl rfl).2 ⟨fun _ => by decide, fun hnan hcan => ?_⟩⟩
  have hs := (k.same_iff_canonical_eq (m.withId "a")).2 ⟨hnan, hcan⟩
  exact (Bool.false_ne_true (hdiffer.symm.trans hs)).elim

/-- Keys that change places are a change that is not told, and a NaN that stays in its place is told
as a change. -/
theorem modified_misses_moved_keys :
    let nan : Document := [("x", .double (.nan false))]
    let s := ({} : Store).after
      [.call (.insert "c" [("a", [("x", .int32 1), ("y", .int32 2)]), ("b", nan)])]
    let d : Document := [("y", .int32 2), ("x", .int32 1)]
    let old : Document := [("_id", .string "a"), ("x", .int32 1), ("y", .int32 2)]
    let new : Document := [("_id", .string "a"), ("y", .int32 2), ("x", .int32 1)]
    let r := s.replaceDocuments "c" [("a", d)] false
    let kept := s.replaceDocuments "c" [("b", nan)] false
    Reachable s ∧
      (s.collection "c").find? "a" = some old ∧ (r.2.collection "c").find? "a" = some new ∧
      old ≠ new ∧ r.1 = .ok { matched := 1 } ∧
      (Step.call (.replace "c" [("a", d)] false)).changes s "c" = [] ∧
      (kept.2.collection "c").find? "b" = (s.collection "c").find? "b" ∧
      kept.1 = .ok { matched := 1, modified := 1 } := by
  intro nan s d old new r kept
  refine ⟨⟨.still, _, rfl⟩, rfl, rfl, by simp [old, new], ?_, rfl, rfl, ?_⟩
  · dsimp only [r, s, d]
    rfl
  · dsimp only [kept, s, nan]
    rfl

end DocumentDb.Memory
