import DocumentDb.Proofs.Memory.Account
import DocumentDb.Proofs.Remote.Codes
import Mathlib.Algebra.Order.BigOperators.Group.List
import Mathlib.Algebra.Order.Ring.Nat
import Mathlib.Data.List.Forall2
import Mathlib.Tactic.Choose

/-!
# One request for each write

Several writes are sent one after the other, each as a request of its own, and the first failure
ends the call.

**What is sent** (`Command.Makes`). An insert, a replacement or a deletion is about the identifier
of the write. The document that it stores carries this identifier and otherwise the entries that
the write gives (`Document.Carries`).

**Withheld replacements** (`Write.Withheld`). A replacement that begins with a dollar sign looks
like a list of changes and is not sent at all. Documents are put under their identifier, which is no
such key, so this happens only to one that has its identifier already, but further back.

**The run** (`run_writeAll_append`). Writes that are sent and answered without a failure only add to
the counts of what follows, whatever it is. So a call is decided by the first failure or the first
withheld write, whichever comes first.

**Theorem (`requests_one_by_one_iff`).** Each write has its request, up to the first failure, and
the call gives this failure or the counts of all replies, exactly if it comes to no withheld write.
-/

namespace DocumentDb

/-! ## Documents that are sent -/

/-- A stored document carries an identifier, and otherwise the entries of the one that was given. -/
structure Document.Carries (id : String) (d stored : Document) : Prop where
  id : stored.id? = some id
  rest : stored.erase idKey = d.erase idKey

theorem Document.carries_withId (id : String) (d : Document) : Carries id d (d.withId id) where
  id := d.id?_withId id
  rest := by
    rw [withId]
    split
    · rfl
    · rw [Assoc.erase, if_pos rfl, Assoc.erase_eq_self (Assoc.get?_erase_self d idKey)]

namespace Write

/-- Whether a write is a deletion. -/
def isDelete : Write → Bool
  | delete _ => true
  | _ => false

/-- A replacement has its identifier already, and begins with a dollar sign. -/
def Withheld : Write → Prop
  | replace id d _ => d.id? = some id ∧ Remote.readsAsChanges d = true
  | _ => False

instance : DecidablePred Withheld
  | insert .. | delete _ => inferInstanceAs (Decidable False)
  | replace .. => inferInstanceAs (Decidable (_ ∧ _))

/-- What a reply reports of a write that it answers. -/
def reported : Write → Remote.Reply → WriteSummary
  | insert .., _ => { inserted := 1 }
  | replace .., r => r.updateSummary
  | delete _, r => { deleted := r.count }

end Write

namespace Remote

/-- A document that is put under its identifier does not begin with a dollar sign. -/
theorem readsAsChanges_withId (id : String) (d : Document) :
    readsAsChanges (d.withId id) = true ↔ d.id? = some id ∧ readsAsChanges d = true := by
  rw [Document.withId]
  split
  · next h => simp [h]
  · next h =>
    have hkey : readsAsChanges ((idKey, .string id) :: d.erase idKey) = false := rfl
    simp [h, hkey]

/-- A command makes a write, under the identifier of the write and no other. -/
def Command.Makes (name : String) : Write → Command → Prop
  | .insert id d, c => ∃ stored, c = .insert name [stored] ∧ d.Carries id stored
  | .replace id d upsert, c =>
    ∃ stored, c = .update name (idQuery id) stored upsert ∧ d.Carries id stored
  | .delete id, c => c = .delete name (idQuery id) 1

/-! ## Replies -/

/-- The failure that a client makes of a reply to a single write. -/
def Reply.failure? (r : Reply) : Option ClientError :=
  match r.error with
  | some c => some (.command c)
  | none =>
    if r.malformed then some incomplete
    else (r.writeErrors.head?.map .write).or (r.writeConcernError.map .writeConcern)

/-- A single write fails as its reply says, and otherwise gives what the reply reports. -/
theorem Reply.outcome_eq {α : Type} (r : Reply) (result : Reply → α) :
    (r.outcome fun r => r.checkWrite.map fun _ => result r) =
      match r.failure? with
      | some e => .error e
      | none => .ok (result r) := by
  rw [outcome, failure?]
  cases r.error with
  | some c => rfl
  | none =>
    dsimp only
    rw [checkWrite]
    cases r.malformed with
    | true => rfl
    | false => cases r.writeErrors <;> cases r.writeConcernError <;> rfl

namespace Session

/-- The reply to a request, by its number from now on. Where there are no replies left, the server
answers with success and nothing in it. -/
def answer (s : Session) (k : Nat) : Reply :=
  s.replies.getD k {}

/-- The replies to the next requests. -/
def answers (s : Session) (n : Nat) : List Reply :=
  (List.range n).map s.answer

/-- The next replies are no failures. -/
def Quiet (s : Session) (n : Nat) : Prop :=
  ∀ k < n, (s.answer k).failure? = none

/-- The session after some requests, with a reply used up for each. -/
def after (s : Session) (qs : List Request) : Session :=
  ⟨s.replies.drop qs.length, s.sent ++ qs⟩

variable {s : Session}

theorem answer_zero (s : Session) : s.answer 0 = s.replies.headD {} := by
  rw [answer]
  cases s.replies <;> rfl

theorem answer_after (s : Session) (qs : List Request) (k : Nat) :
    (s.after qs).answer k = s.answer (qs.length + k) := by
  simp [answer, after, List.getD_eq_getElem?_getD, List.getElem?_drop]

theorem after_nil (s : Session) : s.after [] = s := by
  simp [after]

theorem after_after (s : Session) (qs qs' : List Request) :
    (s.after qs).after qs' = s.after (qs ++ qs') := by
  simp [after, List.drop_drop]

theorem answers_succ (s : Session) (q : Request) (n : Nat) :
    s.answers (n + 1) = s.answer 0 :: (s.after [q]).answers n := by
  simp [answers, List.range_succ_eq_map, answer_after, Nat.add_comm]

theorem Quiet.mono {m n : Nat} (h : s.Quiet n) (hmn : m ≤ n) : s.Quiet m :=
  fun k hk => h k (Nat.lt_of_lt_of_le hk hmn)

/-- Among replies that are not all without a failure there is a first failure. -/
theorem exists_first_failure {n : Nat} (h : ¬ s.Quiet n) :
    ∃ k < n, s.Quiet k ∧ ∃ e, (s.answer k).failure? = some e := by
  induction n with
  | zero => exact absurd (fun k hk => absurd hk k.not_lt_zero) h
  | succ n ih =>
    by_cases hn : s.Quiet n
    · refine ⟨n, n.lt_succ_self, hn, Option.ne_none_iff_exists'.1 fun hnone => h fun k hk => ?_⟩
      obtain hlt | rfl := Nat.lt_succ_iff_lt_or_eq.1 hk
      · exact hn k hlt
      · exact hnone
    · obtain ⟨k, hk, hfirst⟩ := ih hn
      exact ⟨k, Nat.lt_succ_of_lt hk, hfirst⟩

theorem Quiet.after_one {n : Nat} (h : s.Quiet (n + 1)) (q : Request) : (s.after [q]).Quiet n := by
  intro k hk
  rw [answer_after, List.length_singleton, Nat.add_comm]
  exact h (k + 1) (Nat.succ_lt_succ hk)

end Session

/-! ## What replies report -/

/-- What some replies report of the writes that they answer. -/
def reported : List Write → List Reply → WriteSummary
  | w :: ws, r :: rs => w.reported r + reported ws rs
  | _, _ => .none

/-- The replies to writes of one kind. -/
def repliesTo (kind : Write → Bool) (ws : List Write) (rs : List Reply) : List Reply :=
  ((ws.zip rs).filter (kind ·.1)).map Prod.snd

/-- Counts are those of some writes and of the replies to them: the number of inserts, what is
reported of the replacements, where a document that was added counts one, and what is reported of
the deletions. -/
structure Counted (ws : List Write) (rs : List Reply) (t : WriteSummary) : Prop where
  inserted : t.inserted = ws.countP Write.isInsert
  matched : t.matched =
    ((repliesTo Write.isReplace ws rs).map fun r => if r.upserted then 0 else r.count).sum
  modified : t.modified = ((repliesTo Write.isReplace ws rs).map Reply.modified).sum
  upserted : t.upserted = (repliesTo Write.isReplace ws rs).countP Reply.upserted
  deleted : t.deleted = ((repliesTo Write.isDelete ws rs).map Reply.count).sum

theorem repliesTo_cons (kind : Write → Bool) (w : Write) (r : Reply) (ws : List Write)
    (rs : List Reply) :
    repliesTo kind (w :: ws) (r :: rs) = repliesTo kind [w] [r] ++ repliesTo kind ws rs := by
  simp only [repliesTo, List.zip_cons_cons, List.zip_nil_right, List.filter_cons, List.filter_nil]
  split <;> rfl

theorem counted_single (w : Write) (r : Reply) : Counted [w] [r] (w.reported r) := by
  cases w with
  | insert | delete =>
    constructor <;>
      simp [Write.reported, repliesTo, Write.isInsert, Write.isReplace, Write.isDelete]
  | replace =>
    constructor <;>
      simp [Write.reported, Reply.updateSummary, repliesTo, List.countP_cons, Write.isInsert,
        Write.isReplace, Write.isDelete]

theorem Counted.cons {w : Write} {r : Reply} {ws : List Write} {rs : List Reply}
    {t t' : WriteSummary} (h : Counted [w] [r] t) (h' : Counted ws rs t') :
    Counted (w :: ws) (r :: rs) (t + t') where
  inserted := by
    rw [← List.singleton_append, List.countP_append, ← h.inserted, ← h'.inserted]
    rfl
  matched := by
    rw [repliesTo_cons, List.map_append, List.sum_append, ← h.matched, ← h'.matched]
    rfl
  modified := by
    rw [repliesTo_cons, List.map_append, List.sum_append, ← h.modified, ← h'.modified]
    rfl
  upserted := by
    rw [repliesTo_cons, List.countP_append, ← h.upserted, ← h'.upserted]
    rfl
  deleted := by
    rw [repliesTo_cons, List.map_append, List.sum_append, ← h.deleted, ← h'.deleted]
    rfl

theorem counted_reported {ws : List Write} {rs : List Reply} (h : ws.length = rs.length) :
    Counted ws rs (reported ws rs) := by
  induction ws generalizing rs with
  | nil => constructor <;> rfl
  | cons w ws ih =>
    cases rs with
    | nil => cases h
    | cons r rs => exact (counted_single w r).cons (ih (Nat.succ.inj h))

/-! ## The run -/

namespace Database

variable (db : Database) (name : String) {s : Session} {w : Write} {front : List Write}

theorem run_writeOne (h : ¬ w.Withheld) (s : Session) :
    (db.writeOne name w).run.run s =
      (match (s.answer 0).failure? with
        | some e => .error e
        | none => .ok (w.reported (s.answer 0)), s.after [db.requestFor name w]) := by
  have hwrite (result : Reply → WriteSummary) :=
    run_write (db.requestFor name w) result s
  simp only [← Session.answer_zero, Reply.outcome_eq] at hwrite
  cases w with
  | insert id d => exact hwrite _
  | delete id => exact hwrite _
  | replace id d upsert =>
    have hd : ¬ readsAsChanges (d.withId id) = true := mt (readsAsChanges_withId id d).1 h
    show (db.replaceOne name id d upsert).run.run s = _
    rw [replaceOne, if_neg hd]
    exact hwrite _

theorem run_writeOne_of_withheld (h : w.Withheld) (s : Session) :
    (db.writeOne name w).run.run s =
      (.error (.invalidArgument "a replacement must not hold update operators"), s) := by
  cases w with
  | insert | delete => cases h
  | replace id d upsert =>
    show (db.replaceOne name id d upsert).run.run s = _
    rw [replaceOne, if_pos ((readsAsChanges_withId id d).2 h)]
    rfl

/-- Writes in front that are sent and answered without a failure add to the counts. -/
theorem run_writeAll_append (hfront : ∀ w ∈ front, ¬ w.Withheld) (hquiet : s.Quiet front.length)
    (ws : List Write) :
    (db.writeAll name (front ++ ws)).run.run s =
      let p := (db.writeAll name ws).run.run (s.after (front.map (db.requestFor name)))
      (p.1.map (reported front (s.answers front.length) + ·), p.2) := by
  induction front generalizing s with
  | nil =>
    have hnone : reported [] (s.answers 0) = .none := rfl
    rw [List.map_nil, Session.after_nil, List.nil_append, List.length_nil, hnone]
    obtain ⟨_ | t, u⟩ := (db.writeAll name ws).run.run s
    · rfl
    · simp only [Except.map, WriteSummary.none_add]
  | cons w front ih =>
    rw [List.forall_mem_cons] at hfront
    rw [List.length_cons] at hquiet
    have hone := run_writeOne db name hfront.1 s
    rw [hquiet 0 (Nat.succ_pos _)] at hone
    rw [List.cons_append, writeAll, run_bind_of_ok hone,
      run_bind_pure _ (w.reported (s.answer 0) + ·), ih hfront.2 (hquiet.after_one _),
      Session.after_after, List.length_cons, Session.answers_succ _ (db.requestFor name w),
      reported, List.map_cons, List.singleton_append]
    obtain ⟨_ | t, u⟩ := (db.writeAll name ws).run.run
      (s.after (db.requestFor name w :: front.map (db.requestFor name)))
    · rfl
    · simp only [Except.map, WriteSummary.add_assoc]

theorem run_bulkWrite (ws : List Write) (s : Session) :
    (db.bulkWrite name ws).run.run s =
      let p := (db.writeAll name ws).run.run s
      (p.1.mapError ClientError.native, p.2) :=
  rfl

theorem run_bulkWrite_of_quiet (hfront : ∀ w ∈ front, ¬ w.Withheld)
    (hquiet : s.Quiet front.length) :
    (db.bulkWrite name front).run.run s =
      (.ok (reported front (s.answers front.length)),
        s.after (front.map (db.requestFor name))) := by
  have hrun := run_writeAll_append db name hfront hquiet []
  rw [List.append_nil] at hrun
  rw [run_bulkWrite, hrun]
  rfl

/-- The call fails where the write behind quiet replies does, whatever comes after it. -/
theorem run_bulkWrite_of_error {e : ClientError} {t : Session}
    (hfront : ∀ w ∈ front, ¬ w.Withheld) (hquiet : s.Quiet front.length)
    (hone : (db.writeOne name w).run.run (s.after (front.map (db.requestFor name))) =
      (.error e, t)) (ws : List Write) :
    (db.bulkWrite name (front ++ w :: ws)).run.run s = (.error e.native, t) := by
  rw [run_bulkWrite, run_writeAll_append db name hfront hquiet, writeAll, run_bind, hone]
  rfl

theorem run_bulkWrite_of_failure {e : ClientError} (hfront : ∀ w ∈ front, ¬ w.Withheld)
    (hw : ¬ w.Withheld) (hquiet : s.Quiet front.length)
    (he : (s.answer front.length).failure? = some e) (ws : List Write) :
    (db.bulkWrite name (front ++ w :: ws)).run.run s =
      (.error e.native, s.after ((front ++ [w]).map (db.requestFor name))) := by
  refine run_bulkWrite_of_error db name hfront hquiet ?_ ws
  rw [run_writeOne db name hw, Session.answer_after, List.length_map, Nat.add_zero, he,
    Session.after_after, List.map_append]
  rfl

theorem run_bulkWrite_of_withheld (hfront : ∀ w ∈ front, ¬ w.Withheld) (hw : w.Withheld)
    (hquiet : s.Quiet front.length) (ws : List Write) :
    (db.bulkWrite name (front ++ w :: ws)).run.run s =
      (.error (.native none "Invalid argument: a replacement must not hold update operators"),
        s.after (front.map (db.requestFor name))) :=
  run_bulkWrite_of_error db name hfront hquiet (run_writeOne_of_withheld db name hw _) ws

end Database

/-! ## Writes one by one -/

/-- The commands that make some writes are sent, in order, and each uses up a reply. -/
def Sent (db : Database) (name : String) (ws : List Write) (s t : Session) : Prop :=
  ∃ cs, List.Forall₂ (Command.Makes name) ws cs ∧ t = s.after (cs.map db.request)

/-- A call that begins in `s`, gives `r` and ends in `t` makes some writes one by one. -/
structure OneByOne (db : Database) (name : String) (ws : List Write) (s : Session)
    (r : Except Error WriteSummary) (t : Session) : Prop where
  /-- Without a failure all writes are sent, and their replies are counted. -/
  done : s.Quiet ws.length →
    Sent db name ws s t ∧ ∃ total, r = .ok total ∧ Counted ws (s.answers ws.length) total
  /-- With the first failure the call fails, and nothing further is sent. -/
  stopped : ∀ front w rest, ws = front ++ w :: rest → s.Quiet front.length →
    ∀ e, (s.answer front.length).failure? = some e →
      Sent db name (front ++ [w]) s t ∧ r = .error e.native

/-- No write is withheld that the session comes to, which is one with no failure in front of it. -/
def NoneWithheld (ws : List Write) (s : Session) : Prop :=
  ∀ front w rest, ws = front ++ w :: rest → s.Quiet front.length → ¬ w.Withheld

/-- A call makes some writes one by one exactly if it comes to none that is withheld. Otherwise it
sends what stands in front of the first such write, and fails without a code. -/
def UnlessWithheld (x : Action Session WriteSummary) (db : Database) (name : String)
    (ws : List Write) : Prop :=
  ∀ s : Session,
    (OneByOne db name ws s (x.run.run s).1 (x.run.run s).2 ↔ NoneWithheld ws s) ∧
    (¬ NoneWithheld ws s → ∃ front w rest, ws = front ++ w :: rest ∧ w.Withheld ∧
      s.Quiet front.length ∧ Sent db name front s (x.run.run s).2 ∧ (x.run.run s).1 =
        .error (.native none "Invalid argument: a replacement must not hold update operators"))

section OneByOne

variable {db : Database} {name : String} {s : Session} {ws : List Write}

theorem makes_requestFor (db : Database) (name : String) (w : Write) :
    ∃ c, Command.Makes name w c ∧ db.requestFor name w = db.request c := by
  cases w with
  | insert id d => exact ⟨_, ⟨_, rfl, d.carries_withId id⟩, rfl⟩
  | replace id d upsert => exact ⟨_, ⟨_, rfl, d.carries_withId id⟩, rfl⟩
  | delete id => exact ⟨_, rfl, rfl⟩

theorem sent_requestFor (db : Database) (name : String) (ws : List Write) (s : Session) :
    Sent db name ws s (s.after (ws.map (db.requestFor name))) := by
  choose c hc hrequest using makes_requestFor db name
  refine ⟨ws.map c, ?_, ?_⟩
  · exact List.forall₂_map_right_iff.2 (List.forall₂_same.2 fun w _ => hc w)
  · rw [List.map_map]
    exact congrArg s.after (List.map_congr_left fun w _ => hrequest w)

theorem Sent.length {t : Session} (h : Sent db name ws s t) :
    t.sent.length = s.sent.length + ws.length := by
  obtain ⟨cs, hcs, rfl⟩ := h
  rw [Session.after, List.length_append, List.length_map, hcs.length_eq]

theorem exists_split_at {k : Nat} (h : k < ws.length) :
    ∃ front w rest, ws = front ++ w :: rest ∧ front.length = k :=
  ⟨ws.take k, ws[k], ws.drop (k + 1),
    by rw [List.getElem_cons_drop, List.take_append_drop], List.length_take_of_le (Nat.le_of_lt h)⟩

theorem NoneWithheld.front {front rest : List Write} (h : NoneWithheld (front ++ rest) s)
    (hquiet : s.Quiet front.length) : ∀ w ∈ front, ¬ w.Withheld := by
  intro w hw
  obtain ⟨before, behind, rfl⟩ := List.append_of_mem hw
  refine h before w (behind ++ rest) (by simp) (hquiet.mono ?_)
  rw [List.length_append]
  omega

/-- If a session comes to a write that is withheld, then it comes to a first one. -/
theorem exists_first_withheld (h : ¬ NoneWithheld ws s) :
    ∃ front w rest, ws = front ++ w :: rest ∧ (∀ w' ∈ front, ¬ w'.Withheld) ∧ w.Withheld ∧
      s.Quiet front.length := by
  simp only [NoneWithheld, not_forall, not_not] at h
  obtain ⟨front, w, rest, hws, hquiet, hw⟩ := h
  induction hn : front.length using Nat.strongRecOn generalizing front w rest with
  | _ n ih =>
    by_cases hfront : ∀ w' ∈ front, ¬ w'.Withheld
    · exact ⟨front, w, rest, hws, hfront, hw, hquiet⟩
    · simp only [not_forall, not_not] at hfront
      obtain ⟨w', hmem, hw'⟩ := hfront
      obtain ⟨before, behind, rfl⟩ := List.append_of_mem hmem
      rw [List.length_append, List.length_cons] at hn
      exact ih before.length (by omega) before w' (behind ++ w :: rest) (by simp [hws])
        (hquiet.mono (by rw [List.length_append]; omega)) hw' rfl

/-- A session that comes to no write that is withheld makes all of them one by one. -/
theorem oneByOne_of_noneWithheld (h : NoneWithheld ws s) :
    OneByOne db name ws s ((db.bulkWrite name ws).run.run s).1
      ((db.bulkWrite name ws).run.run s).2 where
  done hquiet := by
    rw [← List.append_nil ws] at h
    rw [Database.run_bulkWrite_of_quiet db name (h.front hquiet) hquiet]
    exact ⟨sent_requestFor db name ws s, _, rfl, counted_reported (by simp [Session.answers])⟩
  stopped := by
    rintro front w rest rfl hquiet e he
    have hw := h front w rest rfl hquiet
    rw [Database.run_bulkWrite_of_failure db name (h.front hquiet) hw hquiet he]
    exact ⟨sent_requestFor db name _ s, rfl⟩

/-- What stops at a withheld write sends too little to make the writes one by one. -/
theorem not_oneByOne_of_withheld {front rest : List Write} {w : Write} {e : Error} {t : Session}
    (ht : Sent db name front s t) (hquiet : s.Quiet front.length) :
    ¬ OneByOne db name (front ++ w :: rest) s (.error e) t := by
  intro h
  by_cases hall : s.Quiet (front ++ w :: rest).length
  · obtain ⟨-, total, hok, -⟩ := h.done hall
    cases hok
  · obtain ⟨k, hk, hk', e', he'⟩ := Session.exists_first_failure hall
    have hle : front.length ≤ k := by
      by_contra hlt
      rw [hquiet k (Nat.lt_of_not_le hlt)] at he'
      cases he'
    obtain ⟨before, w', behind, hws, rfl⟩ := exists_split_at hk
    have hlength := (h.stopped before w' behind hws hk' e' he').1.length
    rw [ht.length, List.length_append, List.length_singleton] at hlength
    omega

end OneByOne

/-! ## Main result -/

/-- **One request for each write.** Bulk writes and replacements make their writes one by one
exactly if they come to no replacement that is withheld. -/
theorem requests_one_by_one_iff (db : Database) (name : String) :
    (∀ ws, UnlessWithheld (db.bulkWrite name ws) db name ws) ∧
      ∀ docs upsert, UnlessWithheld (db.replaceDocuments name docs upsert) db name
        (docs.map fun p => .replace p.1 p.2 upsert) := by
  have hbulk (ws : List Write) : UnlessWithheld (db.bulkWrite name ws) db name ws := by
    intro s
    by_cases h : NoneWithheld ws s
    · exact ⟨iff_of_true (oneByOne_of_noneWithheld h) h, absurd h⟩
    · obtain ⟨front, w, rest, rfl, hfront, hw, hquiet⟩ := exists_first_withheld h
      rw [Database.run_bulkWrite_of_withheld db name hfront hw hquiet rest]
      have hsent := sent_requestFor db name front s
      exact ⟨iff_of_false (not_oneByOne_of_withheld hsent hquiet) h,
        fun _ => ⟨front, w, rest, rfl, hw, hquiet, hsent, rfl⟩⟩
  -- Replacements are the bulk write of themselves.
  exact ⟨hbulk, fun docs upsert => hbulk _⟩

/-- The second of three writes is refused, and the third is not sent. -/
theorem requests_one_by_one_iff_refused :
    let ws : List Write :=
      [.insert "a" [("x", .int32 1)], .replace "b" [("$set", .int32 1)] true, .delete "c"]
    let s : Session :=
      { replies := [{}, { writeError := some ⟨121, "Document failed validation"⟩ }] }
    let p := ((Database.mk "db").bulkWrite "c" ws).run.run s
    NoneWithheld ws s ∧ Sent ⟨"db"⟩ "c" (ws.take 2) s p.2 ∧
      p.1 = .error (.native (some 121) "Write failed: Document failed validation") := by
  intro ws s p
  have hall : ∀ w ∈ ws, ¬ w.Withheld := by decide
  have hnone : NoneWithheld ws s := fun front w rest hws _ => hall w (hws ▸ by simp)
  have hone := (((requests_one_by_one_iff ⟨"db"⟩ "c").1 ws s).1).2 hnone
  have hquiet : s.Quiet 1 := fun k hk => by
    obtain rfl := Nat.lt_one_iff.1 hk
    rfl
  exact ⟨hnone, hone.stopped [ws[0]] ws[1] [ws[2]] rfl hquiet _ rfl⟩

/-- A replacement begins with a dollar sign and holds its identifier in the last place. It is not
sent, though it is without the identifier. -/
theorem replacement_withheld :
    let s : Session := { replies := [{ count := 1, modified := 1 }] }
    let w : Write := .replace "a" [("$set", .int32 1), (idKey, .string "a")] false
    let p := ((Database.mk "db").bulkWrite "c" [w]).run.run s
    ¬ OneByOne ⟨"db"⟩ "c" [w] s p.1 p.2 ∧
      p = (.error (.native none "Invalid argument: a replacement must not hold update operators"),
        s) ∧
      ((Database.mk "db").bulkWrite "c" [.replace "a" [("$set", .int32 1)] false]).run.run s =
        (.ok { matched := 1, modified := 1 }, ⟨[], [⟨"db", .update "c" (idQuery "a")
          [(idKey, .string "a"), ("$set", .int32 1)] false⟩]⟩) := by
  intro s w p
  refine ⟨fun h => ?_, rfl, rfl⟩
  have hquiet : s.Quiet 1 := fun k hk => by
    obtain rfl := Nat.lt_one_iff.1 hk
    rfl
  obtain ⟨-, total, hok, -⟩ := h.done hquiet
  cases hok

end Remote

end DocumentDb
