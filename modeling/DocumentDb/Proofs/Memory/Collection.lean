import DocumentDb.Memory.Collection

/-!
# What writes do to a collection

`Collection.Applied` says in one line for each outcome what a write does that is not refused, and
`applied_iff` says that `Collection.apply` does just that. Whatever holds of all writes is proved by
cases on `Applied`, and nothing else unfolds the single writes.

`run_nil`, `run_cons_ok` and `run_cons_error` follow the run of several writes, and `run_keeps` is
the induction over it.
-/

namespace DocumentDb.Memory

namespace Collection

variable {c : Collection} {name id : String} {d : Document}

/-! ## Positions -/

theorem position_eq_none_iff : c.position id = none ↔ ∀ d ∈ c.documents, d.id? ≠ some id := by
  simp [position]

theorem id?_of_position {place : Nat} (h : c.position id = some place) :
    ∃ d, c.documents[place]? = some d ∧ d.id? = some id := by
  obtain ⟨hlt, hid, -⟩ := List.findIdx?_eq_some_iff_getElem.1 h
  exact ⟨c.documents[place], List.getElem?_eq_getElem hlt, by simpa using hid⟩

/-! ## Unique indexes -/

/-- No document among `others` shares a value of a unique index with `d`. -/
def Admits (c : Collection) (others : List Document) (d : Document) : Prop :=
  ∀ i ∈ c.indexes, i.unique = true → ∀ e ∈ others, (i.valueOf e).alike (i.valueOf d) = false

theorem takenBy_eq_false {others : List Document} {i : Index} :
    takenBy others d i = false ↔ ∀ e ∈ others, (i.valueOf e).alike (i.valueOf d) = false := by
  simp [takenBy]

theorem checkUnique_eq_ok_iff {others : List Document} :
    c.checkUnique name others d = .ok () ↔ c.Admits others d := by
  have h : c.Admits others d ↔
      c.indexes.find? (fun i => i.unique && takenBy others d i) = none := by
    simp [Admits, takenBy]
  rw [h, checkUnique]
  split <;> simp_all

/-! ## Single writes -/

/-- What a write does that is not refused. -/
inductive Applied (c : Collection) (name : String) : Write → Effect → Prop
  | inserted {id : String} {d : Document} (hp : c.position id = none)
      (h : c.Admits c.documents (d.withId id)) :
      Applied c name (.insert id d)
        ⟨c.push (d.withId id), { inserted := 1 },
          [.ofDocument name .insert (some (d.withId id))]⟩
  | upserted {id : String} {d : Document} (hp : c.position id = none)
      (h : c.Admits c.documents (d.withId id)) :
      Applied c name (.replace id d true)
        ⟨c.push (d.withId id), { upserted := 1 },
          [.ofDocument name .insert (some (d.withId id))]⟩
  | unmatched {id : String} {d : Document} (hp : c.position id = none) :
      Applied c name (.replace id d false) ⟨c, .none, []⟩
  /-- The new content is no other than the old one. -/
  | confirmed {id : String} {d old : Document} {upsert : Bool} {place : Nat}
      (hp : c.position id = some place) (ho : c.documents[place]? = some old)
      (h : c.Admits (c.documents.eraseIdx place) (d.withId id))
      (hs : old.same (d.withId id) = true) :
      Applied c name (.replace id d upsert)
        ⟨{ c with documents := c.documents.set place (d.withId id) }, { matched := 1 }, []⟩
  | modified {id : String} {d old : Document} {upsert : Bool} {place : Nat}
      (hp : c.position id = some place) (ho : c.documents[place]? = some old)
      (h : c.Admits (c.documents.eraseIdx place) (d.withId id))
      (hs : old.same (d.withId id) = false) :
      Applied c name (.replace id d upsert)
        ⟨{ c with documents := c.documents.set place (d.withId id) },
          { matched := 1, modified := 1 }, [.ofDocument name .replace (some (d.withId id))]⟩
  | deleted {id : String} {place : Nat} (hp : c.position id = some place) :
      Applied c name (.delete id)
        ⟨{ c with documents := c.documents.eraseIdx place }, { deleted := 1 },
          [(Change.ofDocument name .delete none).withId id]⟩
  | absent {id : String} (hp : c.position id = none) :
      Applied c name (.delete id) ⟨c, .none, []⟩

/-- The check of an insert or upsert, followed by the result. -/
theorem bind_checkUnique_eq_ok_iff {others : List Document} {e e' : Effect} :
    (c.checkUnique name others d >>= fun _ => pure e : Except Error Effect) = .ok e' ↔
      c.Admits others d ∧ e = e' := by
  rw [← @checkUnique_eq_ok_iff c name]
  cases c.checkUnique name others d with
  | error err => simp [bind, Except.bind]
  | ok u => simp [bind, Except.bind, pure, Except.pure]

theorem overwrite_eq_ok_iff {place : Nat} {old : Document} {e : Effect}
    (ho : c.documents[place]? = some old) :
    c.overwrite name place d = .ok e ↔
      c.Admits (c.documents.eraseIdx place) d ∧
        e = ⟨{ c with documents := c.documents.set place d },
          { matched := 1, modified := if old.same d then 0 else 1 },
          if old.same d then [] else [.ofDocument name .replace (some d)]⟩ := by
  have hg : c.documents.getD place [] = old := by
    rw [List.getD_eq_getElem?_getD, ho, Option.getD_some]
  rw [overwrite, bind_checkUnique_eq_ok_iff, hg, eq_comm (a := e)]
  cases old.same d <;> rfl

theorem insert_eq_ok_iff {e : Effect} :
    c.insert name id d = .ok e ↔ c.position id = none ∧ c.Admits c.documents (d.withId id) ∧
      e = ⟨c.push (d.withId id), { inserted := 1 },
        [.ofDocument name .insert (some (d.withId id))]⟩ := by
  rw [insert]
  cases hp : c.position id with
  | some place => simp
  | none =>
    rw [if_neg (by simp), bind_checkUnique_eq_ok_iff, eq_comm (a := e)]
    simp

theorem replace_of_position_some {place : Nat} {upsert : Bool} (hp : c.position id = some place) :
    c.replace name id d upsert = c.overwrite name place (d.withId id) := by
  rw [replace, hp]

theorem replace_true_eq_ok_iff {e : Effect} (hp : c.position id = none) :
    c.replace name id d true = .ok e ↔ c.Admits c.documents (d.withId id) ∧
      e = ⟨c.push (d.withId id), { upserted := 1 },
        [.ofDocument name .insert (some (d.withId id))]⟩ := by
  rw [replace, hp, eq_comm (a := e)]
  exact bind_checkUnique_eq_ok_iff

theorem replace_false_of_position_none (hp : c.position id = none) :
    c.replace name id d false = .ok ⟨c, .none, []⟩ := by
  rw [replace, hp]
  rfl

theorem applied_of_apply {w : Write} {e : Effect} (h : c.apply name w = .ok e) :
    c.Applied name w e := by
  cases w with
  | insert id d =>
    obtain ⟨hp, hd, rfl⟩ := insert_eq_ok_iff.1 h
    exact .inserted hp hd
  | replace id d upsert =>
    rw [apply] at h
    cases hp : c.position id with
    | some place =>
      obtain ⟨old, ho, -⟩ := id?_of_position hp
      rw [replace_of_position_some hp, overwrite_eq_ok_iff ho] at h
      obtain ⟨hd, rfl⟩ := h
      cases hs : old.same (d.withId id) with
      | true => exact .confirmed hp ho hd hs
      | false => exact .modified hp ho hd hs
    | none =>
      cases upsert with
      | true =>
        obtain ⟨hd, rfl⟩ := (replace_true_eq_ok_iff hp).1 h
        exact .upserted hp hd
      | false =>
        rw [replace_false_of_position_none hp] at h
        cases h
        exact .unmatched hp
  | delete id =>
    rw [apply, delete] at h
    cases hp : c.position id with
    | some place =>
      rw [hp] at h
      cases h
      exact .deleted hp
    | none =>
      rw [hp] at h
      cases h
      exact .absent hp

theorem apply_of_applied {w : Write} {e : Effect} (h : c.Applied name w e) :
    c.apply name w = .ok e := by
  cases h with
  | inserted hp hd => exact insert_eq_ok_iff.2 ⟨hp, hd, rfl⟩
  | upserted hp hd => exact (replace_true_eq_ok_iff hp).2 ⟨hd, rfl⟩
  | unmatched hp => exact replace_false_of_position_none hp
  | confirmed hp ho hd hs | modified hp ho hd hs =>
    rw [apply, replace_of_position_some hp, overwrite_eq_ok_iff ho]
    exact ⟨hd, by rw [hs]; rfl⟩
  | deleted hp | absent hp =>
    rw [apply, delete, hp]

/-- **Writes that are not refused.** Each has one of the outcomes of `Applied`. -/
theorem applied_iff {w : Write} {e : Effect} :
    c.apply name w = .ok e ↔ c.Applied name w e :=
  ⟨applied_of_apply, apply_of_applied⟩

/-! ## Several writes -/

theorem run_nil : c.run name [] = ⟨c, .none, [], none⟩ := rfl

theorem run_cons_ok {w : Write} {ws : List Write} {e : Effect} (h : c.apply name w = .ok e) :
    c.run name (w :: ws) =
      ⟨(e.collection.run name ws).collection, e.summary + (e.collection.run name ws).summary,
        e.changes ++ (e.collection.run name ws).changes, (e.collection.run name ws).error⟩ := by
  rw [run, h]

theorem run_cons_error {w : Write} {ws : List Write} {err : Error}
    (h : c.apply name w = .error err) : c.run name (w :: ws) = ⟨c, .none, [], some err⟩ := by
  rw [run, h]

/-- What every write keeps that is not refused, a run keeps. -/
theorem run_keeps {P : Collection → Prop}
    (hw : ∀ {c : Collection} {w : Write} {e : Effect}, c.Applied name w e → P c → P e.collection)
    (ws : List Write) (h : P c) : P (c.run name ws).collection := by
  induction ws generalizing c with
  | nil => exact h
  | cons w ws ih =>
    cases ha : c.apply name w with
    | error err =>
      rw [run_cons_error ha]
      exact h
    | ok e =>
      rw [run_cons_ok ha]
      exact ih (hw (applied_of_apply ha) h)

end Collection

/-! ## Indexes -/

section Indexes

variable {c c' : Collection} {name : String}

theorem documents_addIndex {i : Index} (h : c.addIndex name i = .ok c') :
    c'.documents = c.documents := by
  rw [Collection.addIndex] at h
  split at h <;> cases h
  rfl

theorem documents_dropIndex {field : String} (h : c.dropIndex field = .ok c') :
    c'.documents = c.documents := by
  rw [Collection.dropIndex] at h
  split at h <;> cases h
  rfl

end Indexes

end DocumentDb.Memory
