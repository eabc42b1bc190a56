import DocumentDb.Proofs.Memory.Prefix

/-!
# Summaries account for the documents

What a call counts and delivers tells how many documents come and go, and what became of each of
its writes.

**Each write where it is made** (`Collection.met`). Writes are made one after the other, so what one
of them does depends on the collection that it meets: whether its identifier is there
(`Collection.misses`), and which change it makes (`Collection.announces`).

**Accounts** (`Accounts`). A number of documents before and after, counts and changes fit some
writes together with the collections that they meet. Accounts of writes that follow one another
join (`Accounts.cons`), and a write that is not refused keeps them (`Applied.accounts`).

**Theorem (`summary_accounts`).** If a call succeeds, its summary and its changes account for all of
its writes.
-/

namespace DocumentDb

namespace Write

/-- Whether a write is an insert. -/
def isInsert : Write → Bool
  | insert .. => true
  | _ => false

/-- Whether a write is a replacement. -/
def isReplace : Write → Bool
  | replace .. => true
  | _ => false

end Write

/-- The number of changes of a kind that a summary speaks of. -/
def WriteSummary.announced (s : WriteSummary) : ChangeKind → Nat
  | .insert => s.inserted + s.upserted
  | .replace => s.modified
  | .delete => s.deleted
  | .drop => 0

theorem WriteSummary.announced_add (s t : WriteSummary) (kind : ChangeKind) :
    (s + t).announced kind = s.announced kind + t.announced kind := by
  cases kind with
  | insert => exact Nat.add_add_add_comm ..
  | replace | delete | drop => rfl

namespace Memory

namespace Collection

/-- Those of some writes that are made on a collection, up to the first that is refused, each with
the collection that it meets. -/
def met (c : Collection) (name : String) : List Write → List (Collection × Write)
  | [] => []
  | w :: ws =>
    match c.apply name w with
    | .error _ => []
    | .ok e => (c, w) :: met e.collection name ws

/-- Whether a write replaces a document that is not there and does not add it either. -/
def misses (c : Collection) : Write → Bool
  | .replace id _ upsert => !upsert && (c.find? id).isNone
  | _ => false

/-- The change that a write makes on a collection. New content that is the same as the old one is no
change, and neither is a deletion of nothing. -/
def announces (c : Collection) (name : String) : Write → Option Change
  | .insert id d => some (.ofDocument name .insert (some (d.withId id)))
  | .replace id d upsert =>
    match c.find? id with
    | some old =>
      if old.same (d.withId id) then none
      else some (.ofDocument name .replace (some (d.withId id)))
    | none => if upsert then some (.ofDocument name .insert (some (d.withId id))) else none
  | .delete id =>
    if (c.find? id).isSome then some ((Change.ofDocument name .delete none).withId id) else none

variable {c : Collection} {name id : String}

theorem find?_eq_none_of_position (hp : c.position id = none) : c.find? id = none :=
  List.find?_eq_none.2 fun d hd => by simpa using position_eq_none_iff.1 hp d hd

theorem find?_of_position {place : Nat} {d : Document} (hp : c.position id = some place)
    (hd : c.documents[place]? = some d) : c.find? id = some d := by
  obtain ⟨hlt, hid, hbefore⟩ := List.findIdx?_eq_some_iff_getElem.1 hp
  rw [List.getElem?_eq_getElem hlt, Option.some_inj] at hd
  subst hd
  exact List.find?_eq_some_iff_getElem.2 ⟨hid, place, hlt, rfl, fun j hj => by
    simpa using hbefore j hj⟩

theorem met_cons_ok {w : Write} {ws : List Write} {e : Effect} (h : c.apply name w = .ok e) :
    c.met name (w :: ws) = (c, w) :: e.collection.met name ws := by
  rw [met, h]

theorem met_cons_error {w : Write} {ws : List Write} {err : Error}
    (h : c.apply name w = .error err) : c.met name (w :: ws) = [] := by
  rw [met, h]

/-- A run without a refusal makes all of its writes. -/
theorem map_snd_met {ws : List Write} (h : (c.run name ws).error = none) :
    (c.met name ws).map Prod.snd = ws := by
  induction ws generalizing c with
  | nil => rfl
  | cons w ws ih =>
    cases ha : c.apply name w with
    | error err =>
      rw [run_cons_error ha] at h
      cases h
    | ok e =>
      rw [run_cons_ok ha] at h
      rw [met_cons_ok ha, List.map_cons, ih h]

end Collection

/-! ## Accounts -/

/-- A number of documents before and after, counts and changes fit some writes, each with the
collection that it meets. -/
structure Accounts (name : String) (met : List (Collection × Write)) (before after : Nat)
    (sum : WriteSummary) (changes : List Change) : Prop where
  documents : after + sum.deleted = before + sum.inserted + sum.upserted
  inserted : sum.inserted = met.countP fun p => p.2.isInsert
  modified : sum.modified ≤ sum.matched
  replaced : sum.matched + sum.upserted + (met.countP fun p => p.1.misses p.2) =
    met.countP fun p => p.2.isReplace
  made : changes = met.filterMap fun p => p.1.announces name p.2
  announced : ∀ kind, (changes.countP fun c => c.kind = kind) = sum.announced kind

namespace Accounts

variable {name : String} {c : Collection}

theorem nil (n : Nat) : Accounts name [] n n .none [] where
  documents := rfl
  inserted := rfl
  modified := Nat.le_refl 0
  replaced := rfl
  made := rfl
  announced kind := by cases kind <;> rfl

/-- Accounts of a write and of those behind it join. -/
theorem cons {p : Collection × Write} {met : List (Collection × Write)} {n₁ n₂ n₃ : Nat}
    {s t : WriteSummary} {cs ds : List Change} (h : Accounts name [p] n₁ n₂ s cs)
    (h' : Accounts name met n₂ n₃ t ds) : Accounts name (p :: met) n₁ n₃ (s + t) (cs ++ ds) where
  documents := by
    have hd := h.documents
    have hd' := h'.documents
    show n₃ + (s.deleted + t.deleted) = n₁ + (s.inserted + t.inserted) + (s.upserted + t.upserted)
    omega
  inserted := by
    rw [← List.singleton_append, List.countP_append, ← h.inserted, ← h'.inserted]
    rfl
  modified := Nat.add_le_add h.modified h'.modified
  replaced := by
    have hr := h.replaced
    have hr' := h'.replaced
    rw [← List.singleton_append, List.countP_append, List.countP_append]
    show s.matched + t.matched + (s.upserted + t.upserted) + _ = _
    omega
  made := by
    rw [← List.singleton_append, List.filterMap_append, ← h.made, ← h'.made]
  announced kind := by
    rw [List.countP_append, h.announced, h'.announced, WriteSummary.announced_add]

end Accounts

variable {c : Collection} {name : String}

/-- A write that is not refused is accounted for. -/
theorem Collection.Applied.accounts {w : Write} {e : Effect} (h : c.Applied name w e) :
    Accounts name [(c, w)] c.documents.length e.collection.documents.length e.summary
      e.changes := by
  cases h with
  | inserted =>
    exact {
      documents := by simp [push]
      inserted := rfl
      modified := Nat.le_refl 0
      replaced := rfl
      made := rfl
      announced kind := by cases kind <;> rfl }
  | upserted hp =>
    exact {
      documents := by simp [push]
      inserted := rfl
      modified := Nat.le_refl 0
      replaced := rfl
      made := by simp [announces, find?_eq_none_of_position hp]
      announced kind := by cases kind <;> rfl }
  | unmatched hp =>
    exact {
      documents := rfl
      inserted := rfl
      modified := Nat.le_refl 0
      replaced := by simp [misses, find?_eq_none_of_position hp, Write.isReplace, WriteSummary.none]
      made := by simp [announces, find?_eq_none_of_position hp]
      announced kind := by cases kind <;> rfl }
  | confirmed hp ho _ hs =>
    exact {
      documents := by simp
      inserted := rfl
      modified := Nat.zero_le 1
      replaced := by simp [misses, find?_of_position hp ho, Write.isReplace]
      made := by simp [announces, find?_of_position hp ho, hs]
      announced kind := by cases kind <;> rfl }
  | modified hp ho _ hs =>
    exact {
      documents := by simp
      inserted := rfl
      modified := Nat.le_refl 1
      replaced := by simp [misses, find?_of_position hp ho, Write.isReplace]
      made := by simp [announces, find?_of_position hp ho, hs]
      announced kind := by cases kind <;> rfl }
  | deleted hp =>
    obtain ⟨d, hd, -⟩ := id?_of_position hp
    obtain ⟨hlt, -⟩ := List.getElem?_eq_some_iff.1 hd
    exact {
      documents := by
        rw [List.length_eraseIdx_of_lt hlt]
        show c.documents.length - 1 + 1 = c.documents.length + 0 + 0
        omega
      inserted := rfl
      modified := Nat.le_refl 0
      replaced := rfl
      made := by simp [announces, find?_of_position hp hd]
      announced kind := by cases kind <;> rfl }
  | absent hp =>
    exact {
      documents := rfl
      inserted := rfl
      modified := Nat.le_refl 0
      replaced := rfl
      made := by simp [announces, find?_eq_none_of_position hp]
      announced kind := by cases kind <;> rfl }

/-- A run accounts for the writes that it makes, also if it ends with a refusal. -/
theorem Collection.accounts_run (ws : List Write) :
    Accounts name (c.met name ws) c.documents.length (c.run name ws).collection.documents.length
      (c.run name ws).summary (c.run name ws).changes := by
  induction ws generalizing c with
  | nil => exact .nil _
  | cons w ws ih =>
    cases ha : c.apply name w with
    | error err =>
      rw [run_cons_error ha, met_cons_error ha]
      exact .nil _
    | ok e =>
      rw [run_cons_ok ha, met_cons_ok ha]
      exact (applied_of_apply ha).accounts.cons ih

/-! ## Main result -/

/-- **Summaries account for the documents.** If a call makes all of its writes, then as many
documents have come as it has inserted and upserted, and as many have gone as it has deleted. Every
insert counts once. Every replacement counts as matched or as upserted, unless its identifier is not
there and it does not add it. The changes are those that the writes make, one after the other: an
insert for each document that comes, a replacement for each that is modified, and a deletion for
each that goes. -/
theorem summary_accounts {s t : Store} {name : String} {ws : List Write} {sum : WriteSummary}
    (h : s.write name ws = (.ok sum, t)) :
    let met := (s.collection name).met name ws
    let changes := (Step.bulk name ws).changes s name
    met.map Prod.snd = ws ∧
      (t.documents name).length + sum.deleted =
        (s.documents name).length + sum.inserted + sum.upserted ∧
      sum.inserted = ws.countP Write.isInsert ∧
      sum.modified ≤ sum.matched ∧
      sum.matched + sum.upserted + (met.countP fun p => p.1.misses p.2) =
        ws.countP Write.isReplace ∧
      changes = (met.filterMap fun p => p.1.announces name p.2) ∧
      (changes.countP fun c => c.kind = .insert) = sum.inserted + sum.upserted ∧
      (changes.countP fun c => c.kind = .replace) = sum.modified ∧
      (changes.countP fun c => c.kind = .delete) = sum.deleted ∧
      (changes.countP fun c => c.kind = .drop) = 0 := by
  intro met changes
  obtain ⟨herr, hsum⟩ := Store.write_eq_ok_iff.1 (congrArg Prod.fst h)
  have ht : t.collection name = ((s.collection name).run name ws).collection := by
    rw [← Store.collection_write_self, h]
  have hchanges : changes = ((s.collection name).run name ws).changes := changes_bulk s name ws
  have hmet : met.map Prod.snd = ws := Collection.map_snd_met herr
  have hcount (p : Write → Bool) : (met.countP fun q => p q.2) = ws.countP p := by
    rw [← congrArg (List.countP p) hmet, List.countP_map]
    rfl
  have ha : Accounts name met (s.documents name).length (t.documents name).length sum changes := by
    rw [Store.documents, Store.documents, ht, ← hsum, hchanges]
    exact Collection.accounts_run ws
  exact ⟨hmet, ha.documents, ha.inserted.trans (hcount _), ha.modified,
    ha.replaced.trans (hcount _), ha.made, ha.announced .insert, ha.announced .replace,
    ha.announced .delete, ha.announced .drop⟩

/-- One identifier is inserted, confirmed, modified and deleted twice within a call, another one is
missed first and upserted then. -/
theorem summary_accounts_of_mixed_writes :
    let x : Document := Document.single "x" (.int32 1)
    let y : Document := Document.single "x" (.int32 2)
    let ws : List Write := [.insert "a" x, .replace "a" x false, .replace "b" x false,
      .replace "a" y true, .replace "b" y true, .delete "a", .delete "a", .insert "a" x]
    let sum : WriteSummary :=
      { inserted := 2, matched := 2, modified := 1, upserted := 1, deleted := 1 }
    let t := (Store.empty.write "c" ws).2
    Store.empty.write "c" ws = (.ok sum, t) ∧
      (t.documents "c").length + 1 = 0 + 2 + 1 ∧
      ((({} : Collection).met "c" ws).countP fun p => p.1.misses p.2) = 1 ∧
      ((Step.bulk "c" ws).changes Store.empty "c").map (fun c => (c.kind, c.id)) =
        [(.insert, some "a"), (.replace, some "a"), (.insert, some "b"), (.delete, some "a"),
          (.insert, some "a")] := by
  intro x y ws sum t
  have hsum : (Store.empty.write "c" ws).1 = .ok sum := by
    dsimp only [sum, ws, x, y]
    rfl
  have h : Store.empty.write "c" ws = (.ok sum, t) := Prod.ext hsum rfl
  obtain ⟨-, hlen, -, -, hreplaced, -⟩ := summary_accounts h
  refine ⟨h, hlen, Nat.add_left_cancel (n := 3) hreplaced, ?_⟩
  rw [changes_bulk]
  dsimp only [ws, x, y]
  rfl

end Memory

end DocumentDb
