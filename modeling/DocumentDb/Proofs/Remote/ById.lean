import DocumentDb.Memory.Backend
import DocumentDb.Proofs.Memory.Single
import DocumentDb.Proofs.Result
import DocumentDb.Remote.Database
import DocumentDb.Typed.Collection

/-!
# Reading by identifiers

A store in memory looks every identifier up among its documents. A database asks its server for all
of them at once, keeps what the cursor delivers under the identifiers, and takes it out again in the
order in which it was asked.

**Cursors** (`Batches`). Some replies hold documents in batches if all are in order and the last is
the first to close the cursor. Reading the cursor gives exactly these documents and uses up exactly
these replies (`readAll_of_batches`).

**Taking** (`takeByIds_of_perm`). What is taken does not depend on the order of the documents. But
an identifier finds nothing when it comes again, so the result is that for the first occurrences.

**Theorem (`reads_by_id`).** Over the same documents the database gives what the memory gives for
the identifiers without repetitions. The two agree exactly if no stored identifier is asked for
twice.
-/

namespace DocumentDb

/-! ## First occurrences -/

section FirstOccurrences

variable {α : Type} [BEq α]

/-- What holds of a list behind its first item, once this item is removed from it, holds of all
lists. -/
@[elab_as_elim]
theorem eraseDups_induct {motive : List α → Prop} (nil : motive [])
    (cons : ∀ a l, motive (l.filter fun b => !b == a) → motive (a :: l)) (l : List α) :
    motive l := by
  induction h : l.length using Nat.strong_induction_on generalizing l with
  | _ n ih =>
    subst h
    cases l with
    | nil => exact nil
    | cons a l => exact cons a l (ih _ (Nat.lt_succ_of_le (List.length_filter_le ..)) _ rfl)

variable [LawfulBEq α]

theorem nodup_eraseDups (l : List α) : l.eraseDups.Nodup := by
  induction l using eraseDups_induct with
  | nil => exact .nil
  | cons a l ih =>
    rw [List.eraseDups_cons]
    exact List.nodup_cons.2 ⟨by simp [List.mem_eraseDups], ih⟩

theorem eraseDups_filter (p : α → Bool) (l : List α) :
    (l.filter p).eraseDups = l.eraseDups.filter p := by
  induction l using eraseDups_induct with
  | nil => rfl
  | cons a l ih =>
    have hcomm : (l.filter p).filter (fun b => !b == a) = (l.filter fun b => !b == a).filter p := by
      simp only [List.filter_filter, Bool.and_comm]
    rw [List.eraseDups_cons]
    by_cases ha : p a
    · rw [List.filter_cons_of_pos ha, List.filter_cons_of_pos ha, List.eraseDups_cons, hcomm, ih]
    · have hkeep : (l.filter p).filter (fun b => !b == a) = l.filter p := by
        refine List.filter_eq_self.2 fun b hb => ?_
        have : b ≠ a := by
          rintro rfl
          exact ha (List.mem_filter.1 hb).2
        simpa using this
      rw [List.filter_cons_of_neg ha, List.filter_cons_of_neg ha, ← ih, ← hcomm, hkeep]

theorem eraseDups_eq_self_iff {l : List α} : l.eraseDups = l ↔ l.Nodup := by
  constructor
  · intro h
    rw [← h]
    exact nodup_eraseDups l
  · intro h
    induction l with
    | nil => rfl
    | cons a l ih =>
      obtain ⟨ha, hl⟩ := List.nodup_cons.1 h
      have hkeep : l.filter (fun b => !b == a) = l := by
        refine List.filter_eq_self.2 fun b hb => ?_
        have : b ≠ a := fun h => ha (h ▸ hb)
        simpa using this
      rw [List.eraseDups_cons, hkeep, ih hl]

end FirstOccurrences

/-! ## Documents by identifier -/

section Identified

variable {docs found : List Document} {d : Document} {id : String}

/-- The documents that have one of some identifiers. -/
def named (ids : List String) (docs : List Document) : List Document :=
  docs.filter fun d => d.id?.any fun id => decide (id ∈ ids)

theorem mem_named_iff {ids : List String} (hd : d.id? = some id) :
    d ∈ named ids docs ↔ d ∈ docs ∧ id ∈ ids := by
  simp [named, hd]

/-- Among documents with different identifiers the search finds each. -/
theorem find?_id_eq_some_iff (h : docs.Pairwise fun d e => d.id? ≠ e.id?) :
    docs.find? (·.id? == some id) = some d ↔ d ∈ docs ∧ d.id? = some id := by
  induction docs with
  | nil => simp
  | cons e docs ih =>
    obtain ⟨he, hdocs⟩ := List.pairwise_cons.1 h
    rw [List.find?_cons]
    cases hb : e.id? == some id with
    | true =>
      have hid : e.id? = some id := beq_iff_eq.1 hb
      constructor
      · rintro ⟨⟩
        exact ⟨List.mem_cons_self, hid⟩
      · rintro ⟨hd, hid'⟩
        rcases List.mem_cons.1 hd with rfl | hd
        · rfl
        · exact (he d hd (hid.trans hid'.symm)).elim
    | false =>
      have hid : e.id? ≠ some id := beq_eq_false_iff_ne.1 hb
      rw [ih hdocs, List.mem_cons]
      constructor
      · exact fun ⟨hd, hid'⟩ => ⟨.inr hd, hid'⟩
      · rintro ⟨rfl | hd, hid'⟩
        · exact (hid hid').elim
        · exact ⟨hd, hid'⟩

end Identified

namespace Remote

namespace Database

variable {docs found : List Document} {d : Document} {id : String} {ids : List String}

theorem indexById_concat_of_some {other : String} (hd : d.id? = some other) :
    indexById (docs ++ [d]) = (indexById docs).insert other d := by
  rw [indexById, List.foldl_append, ← indexById]
  simp [hd]

theorem indexById_concat_of_none (hd : d.id? = none) :
    indexById (docs ++ [d]) = indexById docs := by
  rw [indexById, List.foldl_append, ← indexById]
  simp [hd]

/-- The last document with an identifier counts. -/
theorem get?_indexById (docs : List Document) (id : String) :
    (indexById docs).get? id = docs.reverse.find? (·.id? == some id) := by
  induction docs using List.reverseRecOn with
  | nil => rfl
  | append_singleton docs d ih =>
    rw [List.reverse_append, List.reverse_singleton, List.singleton_append, List.find?_cons, ← ih]
    cases hd : d.id? with
    | none =>
      rw [indexById_concat_of_none hd]
      rfl
    | some other =>
      rw [indexById_concat_of_some hd]
      by_cases ho : id = other
      · rw [ho, Assoc.get?_insert_self, beq_self_eq_true]
      · have hb : (some other == some id) = false := by simpa using Ne.symm ho
        rw [Assoc.get?_insert_of_ne _ _ ho, hb]

/-- Every identifier takes its document where it comes first. -/
theorem takeByIds_eq (found : Assoc Document) (ids : List String) :
    takeByIds found ids = ids.eraseDups.filterMap found.get? := by
  induction ids generalizing found with
  | nil => rfl
  | cons id ids ih =>
    have hrest : (found.erase id).get? =
        fun other => if !other == id then found.get? other else none := by
      funext other
      by_cases ho : other = id
      · simp [ho, Assoc.get?_erase_self]
      · simp [ho, Assoc.get?_erase_of_ne found ho]
    rw [takeByIds, List.eraseDups_cons, eraseDups_filter, List.filterMap_cons,
      List.filterMap_filter, ← hrest]
    cases hd : found.get? id with
    | some d => exact congrArg (d :: ·) (ih (found.erase id))
    | none =>
      rw [Assoc.erase_eq_self hd]
      exact ih found

/-- What the server returns is searched like the stored documents, whatever its order. -/
theorem get?_indexById_of_perm (hdocs : docs.Pairwise fun d e => d.id? ≠ e.id?)
    (hfound : found.Perm (named ids docs)) (hid : id ∈ ids) :
    (indexById found).get? id = docs.find? (·.id? == some id) := by
  have hpair : found.reverse.Pairwise fun d e => d.id? ≠ e.id? := by
    have hp : (named ids docs).Pairwise fun d e => d.id? ≠ e.id? :=
      hdocs.sublist List.filter_sublist
    exact ((List.reverse_perm found).trans hfound).symm.pairwise hp fun h => Ne.symm h
  rw [get?_indexById]
  refine Option.ext fun d => ?_
  rw [find?_id_eq_some_iff hpair, find?_id_eq_some_iff hdocs, List.mem_reverse, hfound.mem_iff]
  exact and_congr_left fun hd => (mem_named_iff hd).trans (and_iff_left hid)

/-- Documents read by identifiers are the stored ones in the order of the identifiers, each of them
once. -/
theorem takeByIds_of_perm (hdocs : docs.Pairwise fun d e => d.id? ≠ e.id?)
    (hfound : found.Perm (named ids docs)) :
    takeByIds (indexById found) ids =
      ids.eraseDups.filterMap fun id => docs.find? (·.id? == some id) := by
  rw [takeByIds_eq]
  refine List.filterMap_congr fun id hid => ?_
  exact get?_indexById_of_perm hdocs hfound (List.mem_eraseDups.1 hid)

end Database

/-! ## Cursors -/

/-- Replies that hold some documents in batches: all are in order, and the last one is the first to
close the cursor. -/
inductive Batches : List Reply → List Document → Prop
  | last {r : Reply} {docs : List Document} (hb : r.batch = .ok docs) (ho : r.isOpen = false) :
      Batches [r] docs
  | more {r : Reply} {rs : List Reply} {docs rest : List Document} (hb : r.batch = .ok docs)
      (ho : r.isOpen = true) (h : Batches rs rest) : Batches (r :: rs) (docs ++ rest)

variable {rs left : List Reply} {docs : List Document}

theorem drain_of_batches (h : Batches rs docs) :
    drain (rs ++ left) = (docs.map .ok, left) := by
  induction h with
  | last hb ho =>
    rw [List.singleton_append, drain, hb]
    simp [ho]
  | more hb ho _ ih =>
    rw [List.cons_append, drain, hb, List.map_append]
    simp [ho, ih]

theorem collect_map_ok {ε α : Type} (as : List α) :
    collect (as.map (Except.ok : α → Except ε α)) = .ok as := by
  induction as with
  | nil => rfl
  | cons a as ih =>
    rw [List.map_cons, collect, ih]
    rfl

theorem error_of_batch {r : Reply} (hb : r.batch = .ok docs) : r.error = none := by
  rw [Reply.batch] at hb
  cases he : r.error with
  | none => rfl
  | some c =>
    rw [he] at hb
    cases hb

/-- A request whose reply is no error gives this reply. -/
theorem send_of_error_eq_none {r : Reply} (hr : r.error = none) (q : Request)
    (sent : List Request) :
    (send q).run.run ⟨r :: left, sent⟩ = (.ok r, ⟨left, sent ++ [q]⟩) := by
  have htake : (ExceptT.lift (modifyGet fun s => s.exchange q) : Exchange Reply).run.run
      ⟨r :: left, sent⟩ = (.ok r, ⟨left, sent ++ [q]⟩) := rfl
  rw [send, run_bind_of_ok htake, hr]
  rfl

/-- A cursor delivers the documents of its batches and uses up the replies that hold them. -/
theorem openCursor_of_batches (h : Batches rs docs) (q : Request) (sent : List Request) :
    (openCursor q).run.run ⟨rs ++ left, sent⟩ = (.ok (docs.map .ok), ⟨left, sent ++ [q]⟩) := by
  cases h with
  | last hb ho =>
    rw [openCursor, List.singleton_append,
      run_bind_of_ok (send_of_error_eq_none (error_of_batch hb) q sent), hb, ho]
    show (Except.ok (_ ++ []), _) = _
    rw [List.append_nil]
  | @more r rs first rest hb ho h =>
    have hrest : Session.pullRest ⟨rs ++ left, sent ++ [q]⟩ =
        (rest.map .ok, ⟨left, sent ++ [q]⟩) := by
      rw [Session.pullRest, drain_of_batches h]
    rw [openCursor, List.cons_append,
      run_bind_of_ok (send_of_error_eq_none (error_of_batch hb) q sent), hb, ho]
    show (Except.ok (first.map .ok ++ (Session.pullRest _).1), (Session.pullRest _).2) = _
    rw [hrest, List.map_append]

/-- Reading everything that a cursor delivers gives the documents of its batches. -/
theorem readAll_of_batches (h : Batches rs docs) (q : Request) (sent : List Request) :
    (readAll q).run.run ⟨rs ++ left, sent⟩ = (.ok docs, ⟨left, sent ++ [q]⟩) := by
  rw [readAll, run_bind_of_ok (openCursor_of_batches h q sent), collect_map_ok]
  rfl

theorem run_native_of_ok {α : Type} {x : Exchange α} {t u : Session} {a : α}
    (h : x.run.run t = (.ok a, u)) : x.native.run.run t = (.ok a, u) := by
  have hx : x t = (.ok a, u) := h
  show ((x t).1.mapError ClientError.native, (x t).2) = _
  rw [hx]
  rfl

/-- What a database gives when it is asked for some identifiers. -/
theorem run_getDocuments_of_batches {db : Database} (h : Batches rs docs) (name : String)
    (ids : List String) (sent : List Request) :
    (db.getDocuments name ids).run.run ⟨rs ++ left, sent⟩ =
      (.ok (Database.takeByIds (Database.indexById docs) ids),
        ⟨left, sent ++ [⟨db.name, .find name (idsQuery ids)⟩]⟩) := by
  refine run_native_of_ok ?_
  rw [run_bind_pure _ (fun docs => Database.takeByIds (Database.indexById docs) ids),
    readAll_of_batches h]
  rfl

end Remote

namespace Memory

/-- No identifier that is stored is asked for twice. -/
def Collection.AskedOnce (c : Collection) (ids : List String) : Prop :=
  (ids.filter fun id => c.Stores id).Nodup

instance (c : Collection) (ids : List String) : Decidable (c.AskedOnce ids) :=
  inferInstanceAs (Decidable (List.Nodup _))

namespace Store

variable {s : Store} {name : String}

/-- An identifier leads to a document that has it, if one is stored. -/
theorem find?_bind_id? (c : Collection) (id : String) :
    (c.find? id).bind Document.id? = Option.guard (fun id => decide (c.Stores id)) id := by
  rw [Option.guard]
  cases hf : c.find? id with
  | none =>
    have hs := Collection.find?_eq_none_iff_not_stores.1 hf
    rw [if_neg (by simpa using hs), Option.bind_none]
  | some d =>
    have hs : c.Stores id := by
      by_contra hs
      rw [Collection.find?_eq_none_iff_not_stores.2 hs] at hf
      cases hf
    rw [if_pos (decide_eq_true hs), Option.bind_some, Collection.id?_of_find? hf]

/-- Asking for an identifier again makes a difference only if it is stored. -/
theorem getDocuments_eraseDups_eq_iff {ids : List String} :
    s.getDocuments name ids.eraseDups = s.getDocuments name ids ↔
      (s.collection name).AskedOnce ids := by
  have hids (l : List String) : (s.getDocuments name l).filterMap Document.id? =
      l.filter fun id => (s.collection name).Stores id := by
    rw [getDocuments, List.filterMap_filterMap]
    simp only [find?_bind_id?]
    rw [← List.filterMap_eq_filter]
  have hstored (l : List String) : s.getDocuments name l =
      (l.filter fun id => (s.collection name).Stores id).filterMap (s.collection name).find? := by
    rw [getDocuments, List.filterMap_filter]
    refine List.filterMap_congr fun id _ => ?_
    by_cases hs : (s.collection name).Stores id
    · rw [if_pos (decide_eq_true hs)]
    · rw [if_neg (by simpa using hs), Collection.find?_eq_none_iff_not_stores.2 hs]
  rw [Collection.AskedOnce, ← eraseDups_eq_self_iff, eraseDups_filter]
  constructor
  · intro h
    rw [← hids, ← hids, h]
  · intro h
    rw [hstored, h, ← hstored]

end Store

end Memory

/-- Reading records by identifiers decodes the documents that the backend gives. -/
theorem TypedCollection.byIds_of_get {σ α : Type} [Record α] {c : TypedCollection σ α}
    {ids : List (RecordId α)} {s t : σ} {docs : List Document}
    (h : (c.backend.get c.name (ids.map Id.value)).run.run s = (.ok docs, t)) :
    ((c.byIds ids).run.run s).1 = docs.mapM c.converter.ofDocument := by
  rw [byIds, run_bind_of_ok h]
  rw [decodeAll]
  cases docs.mapM c.converter.ofDocument <;> rfl

/-! ## Main result -/

/-- **Reading by identifiers.** A server holds documents with different identifiers and delivers
those that are asked for in any order and in any batches. Then the database gives them in the order
of the identifiers, but each only where it is first asked for, whereas a store in memory that holds
the same documents gives them wherever they are asked for. So the two agree exactly if no stored
identifier is asked for twice, and then records are read alike through any converter. -/
theorem reads_by_id (db : Remote.Database) (s : Memory.Store) (name : String) (ids : List String)
    {rs : List Remote.Reply} {found : List Document} (left : List Remote.Reply)
    (sent : List Remote.Request)
    (hdocs : (s.documents name).Pairwise fun d e => d.id? ≠ e.id?)
    (hb : Remote.Batches rs found) (hfound : found.Perm (named ids (s.documents name))) :
    let t : Remote.Session := ⟨rs ++ left, sent⟩
    (db.backend.get name ids).run.run t =
        (.ok (s.getDocuments name ids.eraseDups),
          ⟨left, sent ++ [⟨db.name, .find name (Remote.idsQuery ids)⟩]⟩) ∧
      (Memory.backend.get name ids).run.run s = (.ok (s.getDocuments name ids), s) ∧
      (s.getDocuments name ids.eraseDups = s.getDocuments name ids ↔
        (s.collection name).AskedOnce ids) ∧
      ((s.collection name).AskedOnce ids → ∀ (α : Type) [Record α] (k : Converter α) (retries : Nat)
        (rids : List (RecordId α)), rids.map Id.value = ids →
          ((TypedCollection.mk name db.backend k retries).byIds rids |>.run.run t).1 =
            ((TypedCollection.mk name Memory.backend k retries).byIds rids |>.run.run s).1) := by
  intro t
  have hget : (db.backend.get name ids).run.run t = (.ok (s.getDocuments name ids.eraseDups),
      ⟨left, sent ++ [⟨db.name, .find name (Remote.idsQuery ids)⟩]⟩) := by
    refine (Remote.run_getDocuments_of_batches hb name ids sent).trans ?_
    rw [Remote.Database.takeByIds_of_perm hdocs hfound]
    rfl
  refine ⟨hget, rfl, Memory.Store.getDocuments_eraseDups_eq_iff, ?_⟩
  intro ha α _ k retries rids hr
  rw [Memory.Store.getDocuments_eraseDups_eq_iff.2 ha, ← hr] at hget
  rw [TypedCollection.byIds_of_get hget, TypedCollection.byIds_of_get rfl]

/-- A server delivers two documents in two batches, against the order of the identifiers. -/
theorem reads_by_id_against_order :
    let ada := Document.single idKey (.string "ada")
    let bob := Document.single idKey (.string "bob")
    let s : Memory.Store := { collections := [("people", { documents := [ada, bob] })] }
    let rs : List Remote.Reply := [{ documents := [ada], isOpen := true }, { documents := [bob] }]
    ((Remote.Database.mk "db").backend.get "people" ["bob", "eve", "ada"]).run.run ⟨rs, []⟩ =
        (.ok [bob, ada], ⟨[], [⟨"db", .find "people" (Remote.idsQuery ["bob", "eve", "ada"])⟩]⟩) ∧
      (Memory.backend.get "people" ["bob", "eve", "ada"]).run.run s = (.ok [bob, ada], s) := by
  intro ada bob s rs
  have hb : Remote.Batches rs ([ada] ++ [bob]) := .more rfl rfl (.last rfl rfl)
  obtain ⟨hremote, hmemory, -, -⟩ :=
    reads_by_id ⟨"db"⟩ s "people" ["bob", "eve", "ada"] [] [] (by decide) hb (List.Perm.refl _)
  exact ⟨hremote, hmemory⟩

/-- A document that is asked for twice is given once by a database and twice by the memory. -/
theorem repeated_id_dropped :
    let ada := Document.single idKey (.string "ada")
    let s : Memory.Store := { collections := [("people", { documents := [ada] })] }
    let t : Remote.Session := { replies := [{ documents := [ada] }] }
    (((Remote.Database.mk "db").backend.get "people" ["ada", "ada"]).run.run t).1 = .ok [ada] ∧
      ((Memory.backend.get "people" ["ada", "ada"]).run.run s).1 = .ok [ada, ada] :=
  ⟨rfl, rfl⟩

end DocumentDb
