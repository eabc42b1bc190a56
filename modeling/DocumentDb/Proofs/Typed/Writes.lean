import DocumentDb.Proofs.Memory.Prefix
import DocumentDb.Proofs.Memory.Single
import DocumentDb.Proofs.Result
import DocumentDb.Records.Person
import DocumentDb.Typed.Store

/-!
# What writes of records report

A write of records on a store in memory gives its result, or it fails in one of two ways: a key is
taken, or there is no document to replace.

**Reports** (`Reports`). A write reports a taken key exactly under one condition, a missing document
exactly under another one, and otherwise its result. If it succeeds, its collection is the one that
the result speaks of; if it fails, its collection is as before. The other collections are as before
in any case.

**Theorem (`writes_report_what_happened`).** Inserts, updates, upserts and deletions of records
report in this sense what they find in the collection.

All writes of one record go the same way: the record is encoded, one write of its document is made,
and what this write has counted is checked (`Reports.of_write`). So what remains for each of them is
when its write is refused and which collection it leaves.
-/

namespace DocumentDb

namespace TypedCollection

section Encoding

variable {σ α : Type} [Record α] {c : TypedCollection σ α} {a : α} {id : String} {d : Document}

/-- A document that lacks its identifier is encoded with it, and stored as it would be without. -/
theorem exists_encode (ha : c.converter.toDocument a = .ok d) :
    ∃ d', c.encode a = .ok ((Record.id a).value, d') ∧
      d'.withId (Record.id a).value = d.withId (Record.id a).value := by
  refine ⟨_, by rw [encode, ha]; rfl, ?_⟩
  split
  · rfl
  · next h =>
    have hd : d.get? idKey = none := by simpa [Assoc.contains] using h
    have hi : d.id? ≠ some (Record.id a).value := by simp [Document.id?, hd]
    rw [Document.withId, if_pos (by simp [Document.id?, Assoc.get?, Value.text?]),
      Document.withId, if_neg hi, Assoc.erase_eq_self hd]

theorem encodeAll_singleton (he : c.encode a = .ok (id, d)) : c.encodeAll [a] = .ok [(id, d)] := by
  rw [encodeAll, List.mapM_cons, he]
  rfl

end Encoding

section Runs

variable {α : Type} [Record α] {c : TypedCollection Memory.Store α} {a : α} {id : String}
  {d : Document}

theorem run_insertMany (hc : c.backend = Memory.backend) (he : c.encode a = .ok (id, d))
    (s : Memory.Store) :
    (c.insertMany [a]).run.run s =
      ((classified (s.write c.name [.insert id d]).1).map fun _ => [a],
        (s.write c.name [.insert id d]).2) := by
  rw [insertMany, encodeAll_singleton he, hc]
  refine (run_bind_pure (Memory.backend.insert c.name [(id, d)]).classified (fun _ => [a]) s).trans
    ?_
  show ((classified ((s.write c.name [.insert id d]).1.map fun _ => ())).map fun _ => [a], _) = _
  cases (s.write c.name [.insert id d]).1 <;> rfl

theorem run_insert (hc : c.backend = Memory.backend) (he : c.encode a = .ok (id, d))
    (s : Memory.Store) :
    (c.insert a).run.run s =
      ((classified (s.write c.name [.insert id d]).1).bind fun _ => .ok a,
        (s.write c.name [.insert id d]).2) := by
  rw [insert, run_bind_pure _ (fun _ => a), run_insertMany hc he]
  cases (s.write c.name [.insert id d]).1 <;> rfl

theorem run_replaceMany (hc : c.backend = Memory.backend) (he : c.encode a = .ok (id, d))
    (upsert : Bool) (s : Memory.Store) :
    (c.replaceMany [a] upsert).run.run s =
      (classified (s.write c.name [.replace id d upsert]).1,
        (s.write c.name [.replace id d upsert]).2) := by
  rw [replaceMany, encodeAll_singleton he, hc]
  rfl

theorem run_update (hc : c.backend = Memory.backend) (he : c.encode a = .ok (id, d))
    (s : Memory.Store) :
    (c.update a).run.run s =
      ((classified (s.write c.name [.replace id d false]).1).bind fun summary =>
          if summary.matched = 0 then
            .error (.noMatchingDocument (.notFound (Record.id a).value c.name))
          else .ok a,
        (s.write c.name [.replace id d false]).2) := by
  rw [update, updateMany, run_bind, run_replaceMany hc he]
  cases (s.write c.name [.replace id d false]).1 with
  | error e => rfl
  | ok summary =>
    dsimp only [classified, Except.bind]
    split <;> rfl

theorem run_upsert (hc : c.backend = Memory.backend) (he : c.encode a = .ok (id, d))
    (s : Memory.Store) :
    (c.upsert a).run.run s =
      ((classified (s.write c.name [.replace id d true]).1).bind fun _ => .ok a,
        (s.write c.name [.replace id d true]).2) := by
  rw [upsert, upsertMany, run_bind_pure _ (fun _ => a), run_replaceMany hc he]
  cases (s.write c.name [.replace id d true]).1 <;> rfl

theorem run_deleteMany (hc : c.backend = Memory.backend) (ids : List (RecordId α))
    (s : Memory.Store) :
    (c.deleteMany ids).run.run s =
      (classified ((s.write c.name ((ids.map Id.value).map .delete)).1.map (·.deleted)),
        (s.write c.name ((ids.map Id.value).map .delete)).2) := by
  rw [deleteMany, hc]
  rfl

end Runs

end TypedCollection

namespace Memory

/-! ## Reports -/

/-- What a write of records on a collection reports from a store. It fails with a taken key exactly
if `taken` and with a missing document exactly if `missing`, and gives `b` otherwise. It leaves the
collection as `after` if it succeeds and as it was if it fails, and it leaves the others alone. -/
structure Reports {β : Type} (o : Outcome Store β) (s : Store) (name : String)
    (taken missing : Prop) (b : β) (after : Collection) : Prop where
  taken_iff : (∃ e, (o.run.run s).1 = .error (.duplicateKey e)) ↔ taken
  missing_iff : (∃ e, (o.run.run s).1 = .error (.noMatchingDocument e)) ↔ missing
  made : ¬ taken → ¬ missing →
    (o.run.run s).1 = .ok b ∧ (o.run.run s).2.collection name = after
  kept : ∀ f, (o.run.run s).1 = .error f →
    (o.run.run s).2.collection name = s.collection name
  others : ∀ other ≠ name, (o.run.run s).2.collection other = s.collection other

namespace Reports

variable {β : Type} {o : Outcome Store β} {s t : Store} {name : String} {taken missing : Prop}
  {b : β} {after : Collection}

theorem of_ok (h : o.run.run s = (.ok b, t)) (hk : ¬ taken) (hm : ¬ missing)
    (ht : t.collection name = after)
    (hn : ∀ other ≠ name, t.collection other = s.collection other) :
    Reports o s name taken missing b after := by
  refine ⟨?_, ?_, ?_, ?_, ?_⟩ <;> rw [h]
  · exact iff_of_false (fun ⟨e, he⟩ => nomatch he) hk
  · exact iff_of_false (fun ⟨e, he⟩ => nomatch he) hm
  · exact fun _ _ => ⟨rfl, ht⟩
  · exact fun f hf => nomatch hf
  · exact hn

theorem of_error {f : Failure} (h : o.run.run s = (.error f, t))
    (hk : (∃ e, f = .duplicateKey e) ↔ taken) (hm : (∃ e, f = .noMatchingDocument e) ↔ missing)
    (hf : taken ∨ missing) (ht : ∀ other, t.collection other = s.collection other) :
    Reports o s name taken missing b after := by
  refine ⟨?_, ?_, ?_, ?_, ?_⟩ <;> rw [h]
  · simpa using hk
  · simpa using hm
  · exact fun hk' hm' => (hf.elim hk' hm').elim
  · exact fun _ _ => ht name
  · exact fun other _ => ht other

/-- A write of a record makes one write and checks what it has counted. -/
theorem of_write {w : Write} {check : WriteSummary → Except Failure β}
    (ho : o.run.run s =
      ((classified (s.write name [w]).1).bind check, (s.write name [w]).2))
    (hk : (∃ e, (s.collection name).apply name w = .ok e) ↔ ¬ taken) (hmk : missing → ¬ taken)
    (hmade : ∀ e, (s.collection name).apply name w = .ok e →
      ¬ missing ∧ check e.summary = .ok b ∧ e.collection = after ∨
        missing ∧ (∃ err, check e.summary = .error (.noMatchingDocument err)) ∧
          e.collection = s.collection name) :
    Reports o s name taken missing b after := by
  cases ha : (s.collection name).apply name w with
  | error err =>
    have htaken : taken := by
      by_contra hn
      obtain ⟨e, he⟩ := hk.2 hn
      rw [ha] at he
      cases he
    have hrun : o.run.run s = (.error (.duplicateKey err), s) := by
      rw [ho, Store.write_singleton_of_error ha, classified, Collection.classify_of_apply_error ha]
      rfl
    exact of_error hrun (iff_of_true ⟨err, rfl⟩ htaken)
      (iff_of_false (fun ⟨_, he⟩ => nomatch he) fun hm => hmk hm htaken) (.inl htaken)
      fun _ => rfl
  | ok e =>
    have hn : ¬ taken := hk.1 ⟨e, ha⟩
    have hw := (Store.write_singleton_of_ok ha).1
    have hcol : (s.write name [w]).2.collection name = e.collection := by
      rw [hw, Store.collection_publish, Store.collection_setCollection_self]
    have hrun : o.run.run s = (check e.summary, (s.write name [w]).2) := by
      rw [ho, hw]
      rfl
    rcases hmade e ha with ⟨hm, hb, hafter⟩ | ⟨hm, ⟨err, hb⟩, hsame⟩
    · rw [hb] at hrun
      exact of_ok hrun hn hm (hcol.trans hafter) fun _ h => Store.collection_write_of_ne s name _ h
    · rw [hb] at hrun
      refine of_error hrun (iff_of_false (fun ⟨_, he⟩ => nomatch he) hn)
        (iff_of_true ⟨err, rfl⟩ hm) (.inr hm) fun other => ?_
      by_cases h : other = name
      · rw [h, hcol, hsame]
      · exact Store.collection_write_of_ne s name _ h

end Reports

/-! ## Writes of records -/

section Records

variable {α : Type} [Record α] {c : TypedCollection Store α} {s : Store}

section Encoded

variable {a : α} {d : Document}

theorem reports_insert (hc : c.backend = backend) (ha : c.converter.toDocument a = .ok d) :
    Reports (c.insert a) s c.name
      ((s.collection c.name).Stores (Record.id a).value ∨
        (s.collection c.name).Clashes (d.withId (Record.id a).value))
      False a ((s.collection c.name).push (d.withId (Record.id a).value)) := by
  obtain ⟨d', he, hd⟩ := TypedCollection.exists_encode ha
  rw [← hd]
  exact .of_write (TypedCollection.run_insert hc he s) Collection.insert_made_iff False.elim
    fun e he => .inl ⟨id, rfl, Collection.collection_of_insert he⟩

theorem reports_update (hc : c.backend = backend) (ha : c.converter.toDocument a = .ok d)
    (hw : (s.collection c.name).WellFormed) :
    Reports (c.update a) s c.name
      ((s.collection c.name).Stores (Record.id a).value ∧
        ((s.collection c.name).without [(Record.id a).value]).Clashes
          (d.withId (Record.id a).value))
      (¬ (s.collection c.name).Stores (Record.id a).value) a
      ((s.collection c.name).put (Record.id a).value (d.withId (Record.id a).value)) := by
  obtain ⟨d', he, hd⟩ := TypedCollection.exists_encode ha
  rw [← hd]
  refine .of_write (TypedCollection.run_update hc he s) ?_ (fun hm hk => hm hk.1) fun e he => ?_
  · rw [hw.replace_made_iff]
    simp
  · have hcol := hw.collection_of_replace he
    have hmatched := Collection.matched_of_replace he
    by_cases hs : (s.collection c.name).Stores (Record.id a).value
    · rw [if_pos (.inl hs)] at hcol
      rw [if_pos hs] at hmatched
      exact .inl ⟨not_not_intro hs, if_neg (by simp [hmatched]), hcol⟩
    · rw [if_neg (by simp [hs])] at hcol
      rw [if_neg hs] at hmatched
      exact .inr ⟨hs, ⟨_, if_pos hmatched⟩, hcol⟩

theorem reports_upsert (hc : c.backend = backend) (ha : c.converter.toDocument a = .ok d)
    (hw : (s.collection c.name).WellFormed) :
    Reports (c.upsert a) s c.name
      (((s.collection c.name).without [(Record.id a).value]).Clashes
        (d.withId (Record.id a).value))
      False a
      ((s.collection c.name).put (Record.id a).value (d.withId (Record.id a).value)) := by
  obtain ⟨d', he, hd⟩ := TypedCollection.exists_encode ha
  rw [← hd]
  refine .of_write (TypedCollection.run_upsert hc he s) ?_ False.elim fun e he => ?_
  · rw [hw.replace_made_iff]
    simp
  · have hcol := hw.collection_of_replace he
    rw [if_pos (.inr rfl)] at hcol
    exact .inl ⟨id, rfl, hcol⟩

end Encoded

theorem reports_deleteMany (hc : c.backend = backend) (hw : (s.collection c.name).WellFormed)
    (ids : List (RecordId α)) :
    Reports (c.deleteMany ids) s c.name False False
      ((ids.map Id.value).toFinset.filter (s.collection c.name).Stores).card
      ((s.collection c.name).without (ids.map Id.value)) := by
  obtain ⟨herr, hcol, hcount⟩ := hw.run_deletes c.name (ids.map Id.value)
  have hres := Store.write_eq_ok_iff.2 ⟨herr, rfl⟩
  have hrun : (c.deleteMany ids).run.run s =
      (.ok ((ids.map Id.value).toFinset.filter (s.collection c.name).Stores).card,
        (s.write c.name ((ids.map Id.value).map .delete)).2) := by
    rw [TypedCollection.run_deleteMany hc, hres, ← hcount]
    rfl
  refine .of_ok hrun not_false not_false ?_ fun other h => Store.collection_write_of_ne s _ _ h
  rw [Store.collection_write_self, hcol]

theorem reports_delete (hc : c.backend = backend) (hw : (s.collection c.name).WellFormed)
    (id : RecordId α) :
    Reports (c.delete id) s c.name False False (decide ((s.collection c.name).Stores id.value))
      ((s.collection c.name).without [id.value]) := by
  have hmany := reports_deleteMany hc hw [id]
  obtain ⟨hres, hcol⟩ := hmany.made not_false not_false
  have hcount : 0 < (([id].map Id.value).toFinset.filter (s.collection c.name).Stores).card ↔
      (s.collection c.name).Stores id.value := by
    simp [Finset.card_pos, Finset.filter_nonempty_iff]
  have hrun : (c.delete id).run.run s =
      (.ok (decide ((s.collection c.name).Stores id.value)),
        ((c.deleteMany [id]).run.run s).2) := by
    rw [TypedCollection.delete, run_bind_pure, hres, ← decide_eq_decide.2 hcount]
    rfl
  exact .of_ok hrun not_false not_false hcol hmany.others

end Records

/-- **Writes report what happened.** Whatever a run has left in the store, an insert of a record
that encodes fails exactly if its identifier is stored or its document clashes, with a taken key. An
update fails with a missing document exactly if the identifier is not stored, and with a taken key
exactly if it is and the document clashes with one that has another identifier. An upsert fails only
for such a clash, with a taken key. Deletions never fail; they tell whether the identifier was
stored, or how many of the identifiers were. -/
theorem writes_report_what_happened {α : Type} [Record α] (c : TypedCollection Store α)
    (hc : c.backend = backend) {s : Store} (hs : Reachable s) :
    let stored := s.collection c.name
    (∀ a d, c.converter.toDocument a = .ok d →
      let id := (Record.id a).value
      let d := d.withId id
      Reports (c.insert a) s c.name (stored.Stores id ∨ stored.Clashes d) False
          a (stored.push d) ∧
        Reports (c.update a) s c.name
          (stored.Stores id ∧ (stored.without [id]).Clashes d) (¬ stored.Stores id)
          a (stored.put id d) ∧
        Reports (c.upsert a) s c.name ((stored.without [id]).Clashes d) False
          a (stored.put id d)) ∧
      (∀ id, Reports (c.delete id) s c.name False False
        (decide (stored.Stores id.value)) (stored.without [id.value])) ∧
      ∀ ids, Reports (c.deleteMany ids) s c.name False False
        ((ids.map Id.value).toFinset.filter stored.Stores).card
        (stored.without (ids.map Id.value)) := by
  intro stored
  have hw : stored.WellFormed := hs.wellFormed c.name
  refine ⟨fun a d ha => ⟨?_, ?_, ?_⟩, fun id => ?_, fun ids => ?_⟩
  · exact reports_insert hc ha
  · exact reports_update hc ha hw
  · exact reports_upsert hc ha hw
  · exact reports_delete hc hw id
  · exact reports_deleteMany hc hw ids

/-- Where names are unique, Ada has no namesake: nobody else of that name is added or there to be
updated, and it is she who is deleted. -/
theorem writes_report_what_happened_to_namesake :
    let people : TypedCollection Store Records.Person :=
      DocumentStore.collection Records.Person { backend := backend }
    let ada : Records.Person := ⟨⟨"1", by decide⟩, "Ada", 36, []⟩
    let namesake : Records.Person := ⟨⟨"2", by decide⟩, "Ada", 41, []⟩
    let s := ({} : Store).after [.call (.addIndex "people" "name" true),
      .call (.bulkWrite "people" [.insert "1" ada.document])]
    (∃ e, ((people.insert namesake).run.run s).1 = .error (.duplicateKey e)) ∧
      (∃ e, ((people.update namesake).run.run s).1 = .error (.noMatchingDocument e)) ∧
      ((people.delete ada.id).run.run s).1 = .ok true := by
  intro people ada namesake s
  have hs : Reachable s := ⟨.still, _, rfl⟩
  obtain ⟨hwrite, hdelete, -⟩ := writes_report_what_happened people rfl hs
  obtain ⟨hinsert, hupdate, -⟩ := hwrite namesake namesake.document rfl
  have hdocs : (s.collection "people").documents = [ada.document] := rfl
  have hclash : (s.collection "people").Clashes namesake.document :=
    ⟨⟨"name", true⟩, List.mem_cons_self, rfl, ada.document, hdocs ▸ List.mem_cons_self, by decide⟩
  have hstored : (s.collection "people").Stores "1" := by decide
  have hmissing : ¬ (s.collection "people").Stores "2" := by decide
  refine ⟨hinsert.taken_iff.2 (.inr hclash), hupdate.missing_iff.2 hmissing, ?_⟩
  rw [((hdelete ada.id).made not_false not_false).1]
  exact congrArg Except.ok (decide_eq_true hstored)

end Memory

end DocumentDb
