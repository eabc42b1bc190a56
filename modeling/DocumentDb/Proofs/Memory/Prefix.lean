import DocumentDb.Proofs.Memory.Call

/-!
# Several writes are a prefix of them

Some writes made by one call are the longest prefix of them of which none is refused.

**One by one** (`Accepted`). Each write is made by a call of its own, and none is refused. A call
of its own is `Collection.apply` on the collection (`write_singleton_of_ok`), and a refused one
leaves the store as it is (`write_singleton_of_error`).

**Theorem (`bulkWrite_eq_prefix`).** A call fails if and only if a write is refused when the writes
are made one by one, with the error of the first that is. The store is then as the writes before it
leave it, and the changes are theirs. If a call succeeds, more writes in the same call do what they
do in a call of their own afterwards, and the counts add up.
-/

namespace DocumentDb

namespace WriteSummary

@[simp] theorem none_add (s : WriteSummary) : none + s = s := by
  show add none s = s
  simp [add, none]

@[simp] theorem add_none (s : WriteSummary) : s + none = s := by
  show add s none = s
  simp [add, none]

theorem add_assoc (s t u : WriteSummary) : s + t + u = s + (t + u) := by
  show add (add s t) u = add s (add t u)
  simp [add, Nat.add_assoc]

end WriteSummary

namespace Memory

/-! ## Runs on a collection -/

namespace Collection

variable {c : Collection} {name : String}

theorem run_append_of_ok {ws : List Write} (h : (c.run name ws).error = none)
    (ws' : List Write) :
    c.run name (ws ++ ws') =
      ⟨((c.run name ws).collection.run name ws').collection,
        (c.run name ws).summary + ((c.run name ws).collection.run name ws').summary,
        (c.run name ws).changes ++ ((c.run name ws).collection.run name ws').changes,
        ((c.run name ws).collection.run name ws').error⟩ := by
  induction ws generalizing c with
  | nil => simp [run_nil]
  | cons w ws ih =>
    cases ha : c.apply name w with
    | error e =>
      rw [run_cons_error ha] at h
      cases h
    | ok e =>
      rw [run_cons_ok ha] at h
      rw [List.cons_append, run_cons_ok ha, run_cons_ok ha, ih h]
      simp [WriteSummary.add_assoc]

/-- A write on the empty collection is never refused. -/
theorem apply_empty (name : String) (w : Write) :
    ∃ e, ({} : Collection).apply name w = .ok e := by
  have hp (id : String) : ({} : Collection).position id = none :=
    position_eq_none_iff.2 (by simp)
  have hd (d : Document) : ({} : Collection).Admits [] d := by simp [Admits]
  cases w with
  | insert id d => exact ⟨_, apply_of_applied (.inserted (hp id) (hd _))⟩
  | replace id d upsert =>
    cases upsert with
    | true => exact ⟨_, apply_of_applied (.upserted (hp id) (hd _))⟩
    | false => exact ⟨_, apply_of_applied (.unmatched (hp id))⟩
  | delete id => exact ⟨_, apply_of_applied (.absent (hp id))⟩

end Collection

/-! ## Calls on a store -/

theorem Monitor.deliver_append (m : Monitor) (cs cs' : List Change) :
    m.deliver (cs ++ cs') = m.deliver cs ++ m.deliver cs' := by
  rw [deliver, deliver, deliver]
  split <;> simp

/-- The step that makes some writes by one call. -/
def Step.bulk (name : String) (ws : List Write) : Step :=
  .call (.bulkWrite name ws)

theorem changes_bulk (s : Store) (name : String) (ws : List Write) :
    (Step.bulk name ws).changes s name = ((s.collection name).run name ws).changes :=
  changes_of_writes rfl s

namespace Store

variable {s t : Store} {name : String}

theorem write_eq_ok_iff {ws : List Write} {sum : WriteSummary} :
    (s.write name ws).1 = .ok sum ↔
      ((s.collection name).run name ws).error = none ∧
        ((s.collection name).run name ws).summary = sum := by
  rw [write]
  cases ((s.collection name).run name ws).error <;> simp

theorem write_eq_error_iff {ws : List Write} {e : Error} :
    (s.write name ws).1 = .error e ↔ ((s.collection name).run name ws).error = some e := by
  rw [write]
  cases ((s.collection name).run name ws).error <;> simp

/-! ### A call that succeeds, and more writes -/

theorem collection_write_run {ws : List Write} (ws' : List Write) :
    ((s.write name ws).2.collection name).run name ws' =
      ((s.collection name).run name ws).collection.run name ws' := by
  rw [collection_write_self]

theorem write_append_state {ws : List Write} {sum : WriteSummary}
    (h : (s.write name ws).1 = .ok sum) (ws' : List Write) :
    (s.write name (ws ++ ws')).2 = ((s.write name ws).2.write name ws').2 := by
  have hr := Collection.run_append_of_ok (write_eq_ok_iff.1 h).1 ws'
  show ((s.setCollection name _).publish name _) =
    (((s.setCollection name _).publish name _).setCollection name _).publish name _
  rw [collection_write_run, hr]
  show Store.mk _ _ _ _ = Store.mk _ _ _ _
  congr 1
  · exact (Assoc.insert_insert ..).symm
  · show s.deliveries ++ _ = s.deliveries ++ _ ++ _
    rw [Monitor.deliver_append, List.append_assoc]
    rfl

theorem changes_append {ws : List Write} {sum : WriteSummary}
    (h : (s.write name ws).1 = .ok sum) (ws' : List Write) :
    (Step.bulk name (ws ++ ws')).changes s name =
      (Step.bulk name ws).changes s name ++
        (Step.bulk name ws').changes (s.write name ws).2 name := by
  rw [changes_bulk, changes_bulk, changes_bulk, collection_write_run,
    Collection.run_append_of_ok (write_eq_ok_iff.1 h).1]

theorem write_append_error {ws : List Write} {sum : WriteSummary}
    (h : (s.write name ws).1 = .ok sum) (ws' : List Write) {e : Error} :
    (s.write name (ws ++ ws')).1 = .error e ↔
      ((s.write name ws).2.write name ws').1 = .error e := by
  rw [write_eq_error_iff, write_eq_error_iff, collection_write_run,
    Collection.run_append_of_ok (write_eq_ok_iff.1 h).1]

theorem write_append_ok {ws ws' : List Write} {sum sum' : WriteSummary}
    (h : (s.write name ws).1 = .ok sum) (h' : ((s.write name ws).2.write name ws').1 = .ok sum') :
    (s.write name (ws ++ ws')).1 = .ok (sum + sum') := by
  rw [write_eq_ok_iff] at h h' ⊢
  rw [collection_write_run] at h'
  rw [Collection.run_append_of_ok h.1, h.2, h'.2]
  exact ⟨h'.1, rfl⟩

/-! ### A call that starts with a refused write -/

/-- Collections on which a write is refused are there. -/
theorem get?_of_apply_error {w : Write} {e : Error}
    (h : (s.collection name).apply name w = .error e) :
    s.collections.get? name = some (s.collection name) := by
  cases hg : s.collections.get? name with
  | some c => rw [collection, hg, Option.getD_some]
  | none =>
    rw [collection, hg, Option.getD_none] at h
    obtain ⟨e', he'⟩ := Collection.apply_empty name w
    rw [he'] at h
    cases h

theorem write_of_apply_error {w : Write} {e : Error}
    (h : (s.collection name).apply name w = .error e) (ws : List Write) :
    s.write name (w :: ws) = (.error e, s) ∧ (Step.bulk name (w :: ws)).changes s name = [] := by
  rw [changes_bulk, write, Collection.run_cons_error h]
  refine ⟨?_, rfl⟩
  show (Except.error e, (s.setCollection name (s.collection name)).publish name []) = _
  rw [setCollection, Assoc.insert_eq_self (get?_of_apply_error h), publish]
  simp [Monitor.deliver]

/-! ### A call with a single write -/

theorem write_singleton_of_error {w : Write} {e : Error}
    (h : (s.collection name).apply name w = .error e) : s.write name [w] = (.error e, s) :=
  (write_of_apply_error h []).1

theorem write_singleton_of_ok {w : Write} {e : Effect}
    (h : (s.collection name).apply name w = .ok e) :
    s.write name [w] =
        (.ok e.summary, (s.setCollection name e.collection).publish name e.changes) ∧
      (Step.bulk name [w]).changes s name = e.changes := by
  have hr : (s.collection name).run name [w] = ⟨e.collection, e.summary, e.changes, none⟩ := by
    rw [Collection.run_cons_ok h, Collection.run_nil, List.append_nil, WriteSummary.add_none]
  rw [changes_bulk, write, hr]
  exact ⟨rfl, rfl⟩

theorem write_of_refused {w : Write} {e : Error} (h : (s.write name [w]).1 = .error e)
    (ws : List Write) :
    s.write name (w :: ws) = (.error e, s) ∧ (Step.bulk name (w :: ws)).changes s name = [] := by
  cases ha : (s.collection name).apply name w with
  | error err =>
    rw [write_singleton_of_error ha] at h
    cases h
    exact write_of_apply_error ha ws
  | ok eff =>
    rw [(write_singleton_of_ok ha).1] at h
    cases h

end Store

/-! ## One by one -/

/-- Each of some writes is made by a call of its own, and none is refused from `s` to `t`. -/
inductive Accepted (name : String) : Store → List Write → Store → Prop
  | nil {s : Store} : Accepted name s [] s
  | cons {s t : Store} {w : Write} {ws : List Write} {sum : WriteSummary}
      (h : (s.write name [w]).1 = .ok sum) (hr : Accepted name (s.write name [w]).2 ws t) :
      Accepted name s (w :: ws) t

/-- The changes of some writes, each made by a call of its own. -/
def Store.changesOneByOne (s : Store) (name : String) (ws : List Write) : List Change :=
  s.changes name (ws.map fun w => Step.bulk name [w])

variable {name : String} {s t : Store}

theorem Accepted.state {ws : List Write} (h : Accepted name s ws t) (ws' : List Write) :
    (s.write name (ws ++ ws')).2 = (t.write name ws').2 := by
  induction h with
  | nil => rfl
  | @cons s t w ws sum h _ ih =>
    rw [List.cons_append, ← List.singleton_append, Store.write_append_state h, ih]

theorem Accepted.error {ws : List Write} (h : Accepted name s ws t) (ws' : List Write)
    {e : Error} :
    (s.write name (ws ++ ws')).1 = .error e ↔ (t.write name ws').1 = .error e := by
  induction h with
  | nil => rfl
  | @cons s t w ws sum h _ ih =>
    rw [List.cons_append, ← List.singleton_append, Store.write_append_error h, ih]

theorem Accepted.changes {ws : List Write} (h : Accepted name s ws t) (ws' : List Write) :
    (Step.bulk name (ws ++ ws')).changes s name =
      s.changesOneByOne name ws ++ (Step.bulk name ws').changes t name := by
  induction h with
  | nil => rfl
  | @cons s t w ws sum h _ ih =>
    rw [List.cons_append, ← List.singleton_append, Store.changes_append h, ih,
      ← List.append_assoc]
    rfl

/-- A call that fails has a first write that is refused. -/
theorem exists_refused {ws : List Write} {e : Error} (h : (s.write name ws).1 = .error e) :
    ∃ ws₁ w ws₂ t, ws = ws₁ ++ w :: ws₂ ∧ Accepted name s ws₁ t ∧
      (t.write name [w]).1 = .error e := by
  induction ws generalizing s with
  | nil => cases h
  | cons w ws ih =>
    cases hw : (s.write name [w]).1 with
    | error e' =>
      rw [(Store.write_of_refused hw ws).1] at h
      cases h
      exact ⟨[], w, ws, s, rfl, .nil, hw⟩
    | ok sum =>
      rw [← List.singleton_append, Store.write_append_error hw] at h
      obtain ⟨ws₁, w', ws₂, t, rfl, ha, he⟩ := ih h
      exact ⟨w :: ws₁, w', ws₂, t, rfl, .cons hw ha, he⟩

/-- **A call makes a prefix of its writes.** A call with one write makes it on the collection, and
leaves the store as it was if it is refused. A call with several fails exactly if one of them is
refused when they are made one by one, with the error of the first that is, and then leaves the
store and the changes of the writes before. If it succeeds, it may be joined with a call that
follows. -/
theorem bulkWrite_eq_prefix (s : Store) (name : String) :
    (∀ t w,
      (∀ e, (t.collection name).apply name w = .error e →
        t.write name [w] = (.error e, t) ∧ (Step.bulk name [w]).changes t name = []) ∧
      ∀ e, (t.collection name).apply name w = .ok e →
        t.write name [w] =
            (.ok e.summary, (t.setCollection name e.collection).publish name e.changes) ∧
          (Step.bulk name [w]).changes t name = e.changes) ∧
    (∀ ws e, (s.write name ws).1 = .error e ↔
      ∃ ws₁ w ws₂ t, ws = ws₁ ++ w :: ws₂ ∧ Accepted name s ws₁ t ∧
        (t.write name [w]).1 = .error e) ∧
    (∀ ws₁ w ws₂ t e, Accepted name s ws₁ t → (t.write name [w]).1 = .error e →
      (s.write name (ws₁ ++ w :: ws₂)).2 = t ∧
        (Step.bulk name (ws₁ ++ w :: ws₂)).changes s name = s.changesOneByOne name ws₁) ∧
    ∀ ws ws' sum, (s.write name ws).1 = .ok sum →
      (s.write name (ws ++ ws')).2 = ((s.write name ws).2.write name ws').2 ∧
        (Step.bulk name (ws ++ ws')).changes s name =
          (Step.bulk name ws).changes s name ++
            (Step.bulk name ws').changes (s.write name ws).2 name ∧
        (∀ e, (s.write name (ws ++ ws')).1 = .error e ↔
          ((s.write name ws).2.write name ws').1 = .error e) ∧
        ∀ sum', ((s.write name ws).2.write name ws').1 = .ok sum' →
          (s.write name (ws ++ ws')).1 = .ok {
            inserted := sum.inserted + sum'.inserted
            matched := sum.matched + sum'.matched
            modified := sum.modified + sum'.modified
            upserted := sum.upserted + sum'.upserted
            deleted := sum.deleted + sum'.deleted } := by
  refine ⟨fun t w => ⟨fun e h => Store.write_of_apply_error h [],
      fun e h => Store.write_singleton_of_ok h⟩,
    fun ws e => ⟨exists_refused, ?_⟩, fun ws₁ w ws₂ t e ha he => ?_, fun ws ws' sum h => ?_⟩
  · rintro ⟨ws₁, w, ws₂, t, rfl, ha, he⟩
    rw [ha.error, (Store.write_of_refused he ws₂).1]
  · obtain ⟨hw, hc⟩ := Store.write_of_refused he ws₂
    rw [ha.state, ha.changes, hw, hc, List.append_nil]
    exact ⟨rfl, rfl⟩
  · exact ⟨Store.write_append_state h ws', Store.changes_append h ws',
      fun e => Store.write_append_error h ws', fun sum' h' => Store.write_append_ok h h'⟩

/-- A third insert repeats the identifier of the first: the call stops there, with the two
documents before it stored and announced, and never comes to the fourth. -/
theorem bulkWrite_eq_prefix_of_repeated_id :
    ∃ t, Accepted "items" .empty [.insert "a" [], .insert "b" []] t ∧
      (t.documents "items").map Document.id? = [some "a", some "b"] ∧
      Store.empty.write "items"
          [.insert "a" [], .insert "b" [], .insert "a" [], .insert "c" []] =
        (.error (.alreadyExists "a" "items"), t) ∧
      (Step.bulk "items" [.insert "a" [], .insert "b" [], .insert "a" [], .insert "c" []]).changes
          .empty "items" =
        Store.empty.changesOneByOne "items" [.insert "a" [], .insert "b" []] := by
  have ha : Accepted "items" .empty [.insert "a" [], .insert "b" []] _ :=
    .cons rfl (.cons rfl .nil)
  obtain ⟨-, hfails, hleaves, -⟩ := bulkWrite_eq_prefix .empty "items"
  have hr := (hfails _ (.alreadyExists "a" "items")).2
    ⟨_, .insert "a" [], [.insert "c" []], _, rfl, ha, rfl⟩
  obtain ⟨ht, hc⟩ :=
    hleaves _ (.insert "a" []) [.insert "c" []] _ (.alreadyExists "a" "items") ha rfl
  exact ⟨_, ha, rfl, Prod.ext hr ht, hc⟩

end Memory

end DocumentDb
