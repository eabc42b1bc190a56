import DocumentDb.Failure
import DocumentDb.Proofs.Result
import DocumentDb.Remote.Database

/-!
# Codes of failed writes

A reply to a write may report failures with a code: the server refuses the command, it refuses
writes, or it makes the write without acknowledging it. The first of these counts
(`Reply.complaint?`).

**Courses** (`Course`). A computation sends some requests in order, up to its first failure, and
takes one reply for each. Courses compose, so what holds of a single write holds of several.

**Theorem (`codes_of_failed_writes`).** All writes fail with the code of the first failure that
their replies report, except that an insert of documents all at once loses the code of a missing
acknowledgement.
-/

namespace DocumentDb.Remote

/-! ## What replies report -/

/-- The failure that a reply to a write reports; none if the reply lacks what it must hold. -/
def Reply.complaint? (r : Reply) : Option Complaint :=
  r.error <|> if r.malformed then none else r.writeErrors.head? <|> r.writeConcernError

/-- Whether the server refuses the command or a write. -/
def Reply.refuses (r : Reply) : Bool :=
  r.error.isSome || !r.writeErrors.isEmpty

/-- The first failure that some replies report. -/
def complaintIn (rs : List Reply) : Option Complaint :=
  rs.findSome? Reply.complaint?

theorem complaintIn_append (rs rs' : List Reply) :
    complaintIn (rs ++ rs') = (complaintIn rs).or (complaintIn rs') :=
  List.findSome?_append

/-- The code of a failure. -/
def codeOf {α : Type} : Except ClientError α → Option Int
  | .ok _ => none
  | .error e => e.serverCode

/-! ## Courses -/

section Courses

variable {α β : Type}

/-- A computation that begins in `s`, gives `r` and ends in `t` sends `asked` out of the requests
`qs`, and takes a reply for each. -/
structure Course (qs asked : List Request) (s : Session) (r : Except ClientError α)
    (t : Session) : Prop where
  /-- Requests are sent in order. -/
  front : asked <+: qs
  /-- All requests are sent unless there is a failure. -/
  all : ∀ a, r = .ok a → asked = qs
  taken : t = ⟨s.replies.drop asked.length, s.sent ++ asked⟩
  /-- The code is that of the first failure which the replies report. -/
  code : codeOf r = (complaintIn (s.replies.take asked.length)).map Complaint.code

/-- A computation sends the requests `qs` in order, up to its first failure. -/
def Exchange.Asks (x : Exchange α) (qs : List Request) : Prop :=
  ∀ s, ∃ asked, Course qs asked s (x.run.run s).1 (x.run.run s).2

variable {qs qs' asked asked' : List Request} {s t u : Session}

/-- A computation that sends nothing, and gives no code if it fails. -/
theorem Course.idle {r : Except ClientError α} (s : Session) (hcode : codeOf r = none)
    (hall : ∀ a, r = .ok a → qs = []) : Course qs [] s r s where
  front := List.nil_prefix
  all a h := (hall a h).symm
  taken := by simp
  code := hcode

theorem Course.stop {e : ClientError} (h : Course qs asked s (.error e : Except ClientError α) t) :
    Course (qs ++ qs') asked s (.error e : Except ClientError β) t where
  front := h.front.trans (List.prefix_append ..)
  all a h := by cases h
  taken := h.taken
  code := h.code

theorem Course.append {a : α} {r : Except ClientError β} (h : Course qs asked s (.ok a) t)
    (h' : Course qs' asked' t r u) : Course (qs ++ qs') (asked ++ asked') s r u := by
  obtain rfl := h.all a rfl
  have htaken := h.taken
  subst htaken
  have hquiet : complaintIn (s.replies.take asked.length) = none :=
    Option.map_eq_none_iff.1 h.code.symm
  refine ⟨(List.prefix_append_right_inj asked).2 h'.front, fun b hb => ?_, ?_, ?_⟩
  · rw [h'.all b hb]
  · rw [h'.taken, List.drop_drop, List.length_append, List.append_assoc]
  · rw [h'.code, List.length_append, List.take_add, complaintIn_append, hquiet, Option.none_or]

theorem asks_pure (a : α) : (pure a : Exchange α).Asks [] :=
  fun s => ⟨[], .idle s rfl fun _ _ => rfl⟩

/-- A computation that is given up without a code before anything is sent. -/
theorem asks_throw {e : ClientError} (h : e.serverCode = none) (qs : List Request) :
    (throw e : Exchange α).Asks qs :=
  fun s => ⟨[], .idle s h fun _ h => by cases h⟩

theorem asks_bind {x : Exchange α} {f : α → Exchange β} (hx : x.Asks qs)
    (hf : ∀ a, (f a).Asks qs') : (x >>= f).Asks (qs ++ qs') := by
  intro s
  obtain ⟨asked, h⟩ := hx s
  rw [run_bind]
  revert h
  obtain ⟨_ | a, t⟩ := x.run.run s <;> intro h
  · exact ⟨asked, h.stop⟩
  · obtain ⟨asked', h'⟩ := hf a t
    exact ⟨asked ++ asked', h.append h'⟩

end Courses

/-! ## Single commands -/

section Commands

variable {α : Type} {f : Reply → Exchange α} {check : Reply → Except ClientError α}

/-- What a command gives: the reply is checked unless the server refuses the command. -/
def Reply.outcome (r : Reply) (check : Reply → Except ClientError α) : Except ClientError α :=
  match r.error with
  | some c => .error (.command c)
  | none => check r

/-- A command takes the next reply. If there is none, the server answers with nothing. -/
theorem run_command (hf : ∀ r t, (f r).run.run t = (check r, t)) (q : Request) (s : Session) :
    (send q >>= f).run.run s =
      ((s.replies.headD {}).outcome check, ⟨s.replies.drop 1, s.sent ++ [q]⟩) := by
  have hnext : s.exchange q = (s.replies.headD {}, ⟨s.replies.drop 1, s.sent ++ [q]⟩) := by
    rw [Session.exchange]
    cases s.replies <;> rfl
  have htake : (ExceptT.lift (modifyGet fun s => s.exchange q) : Exchange Reply).run.run s =
      (.ok (s.exchange q).1, (s.exchange q).2) := rfl
  rw [run_bind, send, run_bind_of_ok htake, hnext, Reply.outcome]
  cases (s.replies.headD {}).error with
  | some c => rfl
  | none => exact hf _ _

theorem run_write (q : Request) (result : Reply → α) (s : Session) :
    (do
      let reply ← send q
      MonadExcept.ofExcept reply.checkWrite
      return result reply : Exchange α).run.run s =
      ((s.replies.headD {}).outcome fun r => r.checkWrite.map fun _ => result r,
        ⟨s.replies.drop 1, s.sent ++ [q]⟩) := by
  refine run_command (fun r t => ?_) q s
  cases r.checkWrite <;> rfl

/-- A single write fails with the code that the reply reports. -/
theorem codeOf_outcome (r : Reply) (result : Reply → α) :
    codeOf (r.outcome fun r => r.checkWrite.map fun _ => result r) =
      r.complaint?.map Complaint.code := by
  rw [Reply.outcome, Reply.complaint?]
  cases r.error with
  | some c => rfl
  | none =>
    dsimp only
    rw [Reply.checkWrite]
    cases r.malformed with
    | true => rfl
    | false => cases r.writeErrors <;> cases r.writeConcernError <;> rfl

theorem complaintIn_take_one (rs : List Reply) :
    complaintIn (rs.take 1) = (rs.headD {}).complaint? := by
  cases rs with
  | nil => rfl
  | cons r rs =>
    show complaintIn [r] = r.complaint?
    rw [complaintIn, List.findSome?_cons]
    cases r.complaint? <;> rfl

theorem asks_write (q : Request) (result : Reply → α) :
    Exchange.Asks (do
      let reply ← send q
      MonadExcept.ofExcept reply.checkWrite
      return result reply) [q] := by
  intro s
  rw [run_write]
  refine ⟨[q], List.prefix_rfl, fun _ _ => rfl, rfl, ?_⟩
  rw [codeOf_outcome, List.length_singleton, complaintIn_take_one]

end Commands

namespace Database

variable (db : Database) (name : String)

/-- What a write asks for. -/
def requestFor : Write → Request
  | .insert id d => db.request (.insert name [d.withId id])
  | .replace id d upsert => db.request (.update name (idQuery id) (d.withId id) upsert)
  | .delete id => db.request (.delete name (idQuery id) 1)

theorem asks_writeOne (w : Write) : (db.writeOne name w).Asks [db.requestFor name w] := by
  cases w with
  | insert id d => exact asks_write _ _
  | delete id => exact asks_write _ _
  | replace id d upsert =>
    show (db.replaceOne name id d upsert).Asks _
    rw [replaceOne]
    by_cases hd : readsAsChanges (d.withId id)
    · rw [if_pos hd]
      exact asks_bind (asks_throw rfl []) fun _ => asks_write _ _
    · rw [if_neg hd]
      exact asks_bind (asks_pure ()) fun _ => asks_write _ _

theorem asks_writeAll (ws : List Write) :
    (db.writeAll name ws).Asks (ws.map (db.requestFor name)) := by
  induction ws with
  | nil => exact asks_pure _
  | cons w ws ih =>
    refine asks_bind (asks_writeOne db name w) fun s => ?_
    have hrest := asks_bind ih fun s' => asks_pure (s + s')
    rwa [List.append_nil] at hrest

end Database

/-! ## Inserts of documents -/

theorem exists_of_codeOf {α : Type} {r : Except ClientError α} {k : Int}
    (h : codeOf r = some k) : ∃ e, r = .error e ∧ e.serverCode = some k := by
  cases r with
  | ok a => cases h
  | error e => exact ⟨e, rfl, h⟩

/-- An insert of documents all at once keeps the code of a refusal, and only the wording of a
missing acknowledgement. -/
theorem outcome_checkInserts {r : Reply} {c : Complaint} (h : r.complaint? = some c) :
    ∃ e, r.outcome Reply.checkInserts = .error e ∧
      e.serverCode = (if r.refuses then some c.code else none) ∧
      (r.refuses = false → e = .insertMany none (some c)) := by
  rw [Reply.complaint?] at h
  rw [Reply.outcome, Reply.refuses]
  cases he : r.error with
  | some c' =>
    rw [he] at h
    cases h
    exact ⟨_, rfl, rfl, fun hr => by cases hr⟩
  | none =>
    rw [he] at h
    dsimp only
    rw [Reply.checkInserts]
    cases hm : r.malformed with
    | true =>
      rw [hm] at h
      cases h
    | false =>
      rw [hm] at h
      cases hw : r.writeErrors with
      | cons c' cs =>
        rw [hw] at h
        cases h
        exact ⟨_, rfl, rfl, fun hr => by cases hr⟩
      | nil =>
        rw [hw] at h
        change r.writeConcernError = some c at h
        rw [h]
        exact ⟨_, rfl, rfl, fun _ => rfl⟩

/-- The words for a taken key occur in the wording of a missing acknowledgement exactly if they
occur in what the server says. -/
theorem occursIn_text_insertMany (c : Complaint) :
    occursIn "duplicate key".toList (ClientError.insertMany none (some c)).text.toList =
      occursIn "duplicate key".toList c.message.toList := by
  have htext : (ClientError.insertMany none (some c)).text = "Insert failed: " ++ c.message := rfl
  rw [htext, String.toList_append]
  rfl

theorem kindName_of_code (k : Int) (text : String) :
    (Failure.classify (.native (some k) text)).kindName =
      if k ∈ duplicateKeyCodes then "DuplicateKey"
      else if k = sampleNoNonDuplicateCode then "SampleNoNonDuplicate" else "Unknown" := by
  simp only [Failure.classify, List.contains_iff_mem]
  split
  · rfl
  · split <;> rfl

theorem kindName_of_text (text : String) :
    (Failure.classify (.native none text)).kindName =
      if occursIn "duplicate key".toList text.toList then "DuplicateKey" else "Unknown" := by
  rw [Failure.classify]
  split <;> rfl

/-- An error of the database is sorted alike with a code and without it exactly if its text says
what the code says. -/
theorem kindName_eq_iff (k : Int) (text text' : String) :
    (Failure.classify (.native none text)).kindName =
        (Failure.classify (.native (some k) text')).kindName ↔
      k ≠ sampleNoNonDuplicateCode ∧
        (k ∈ duplicateKeyCodes ↔ occursIn "duplicate key".toList text.toList) := by
  rw [kindName_of_code, kindName_of_text]
  generalize occursIn "duplicate key".toList text.toList = named
  by_cases hs : k = sampleNoNonDuplicateCode
  · subst hs
    have hk : sampleNoNonDuplicateCode ∉ duplicateKeyCodes := by decide
    rw [if_neg hk, if_pos rfl]
    cases named <;> simp
  · by_cases hk : k ∈ duplicateKeyCodes
    · rw [if_pos hk]
      cases named <;> simp [hs, hk]
    · rw [if_neg hk, if_neg hs]
      cases named <;> simp [hs, hk]

namespace Database

variable (db : Database) (name : String) (s : Session)

theorem run_insertDocuments {docs : List (String × Document)} (h : docs ≠ []) :
    (db.insertDocuments name docs).run.run s =
      (((s.replies.headD {}).outcome Reply.checkInserts).mapError ClientError.native,
        ⟨s.replies.drop 1,
          s.sent ++ [db.request (.insert name (docs.map fun p => p.2.withId p.1))]⟩) := by
  have hf (r : Reply) (t : Session) :
      (MonadExcept.ofExcept r.checkInserts : Exchange Unit).run.run t = (r.checkInserts, t) := by
    cases r.checkInserts <;> rfl
  rw [insertDocuments, if_neg (by simpa using h)]
  have hrun := run_command hf (db.request (.insert name (docs.map fun p => p.2.withId p.1))) s
  exact congrArg (fun p => (p.1.mapError ClientError.native, p.2)) hrun

theorem run_bulkWrite_insert {id : String} {d : Document} {e : ClientError}
    (h : ((s.replies.headD {}).outcome fun r =>
      r.checkWrite.map fun _ => ({ inserted := 1 } : WriteSummary)) = .error e) :
    (db.bulkWrite name [.insert id d]).run.run s =
      (.error e.native, ⟨s.replies.drop 1, s.sent ++ [db.requestFor name (.insert id d)]⟩) := by
  have hone : (db.writeOne name (.insert id d)).run.run s =
      (.error e, ⟨s.replies.drop 1, s.sent ++ [db.requestFor name (.insert id d)]⟩) := by
    rw [← h]
    exact run_write _ (fun _ => ({ inserted := 1 } : WriteSummary)) s
  have hall : (db.writeAll name [.insert id d]).run.run s =
      (.error e, ⟨s.replies.drop 1, s.sent ++ [db.requestFor name (.insert id d)]⟩) := by
    rw [writeAll, run_bind, hone]
  exact congrArg (fun p => (p.1.mapError ClientError.native, p.2)) hall

end Database

/-! ## Main result -/

/-- A call sends the requests `qs` in order, up to its first failure, and takes a reply for each of
those that it sends. If these replies report a failure, then the call fails with the code of the
first one. Otherwise it succeeds, or fails without a code. -/
def KeepsCodes {α : Type} (x : Action Session α) (qs : List Request) : Prop :=
  ∀ s, ∃ asked, asked <+: qs ∧
    (x.run.run s).2 = ⟨s.replies.drop asked.length, s.sent ++ asked⟩ ∧
    match complaintIn (s.replies.take asked.length) with
    | some c => ∃ text, (x.run.run s).1 = .error (.native (some c.code) text)
    | none => (∃ a, (x.run.run s).1 = .ok a ∧ asked = qs) ∨
        ∃ text, (x.run.run s).1 = .error (.native none text)

theorem keepsCodes_native {α : Type} {x : Exchange α} {qs : List Request} (h : x.Asks qs) :
    KeepsCodes x.native qs := by
  intro s
  obtain ⟨asked, h⟩ := h s
  refine ⟨asked, h.front, h.taken, ?_⟩
  have hcode := h.code
  have hrun : (x.native.run.run s).1 = (x.run.run s).1.mapError ClientError.native := rfl
  rw [hrun]
  cases hr : (x.run.run s).1 with
  | ok a =>
    rw [hr] at hcode
    rw [Option.map_eq_none_iff.1 hcode.symm]
    exact .inl ⟨a, rfl, h.all a hr⟩
  | error e =>
    rw [hr] at hcode
    change e.serverCode = _ at hcode
    have hfail : (Except.error e : Except ClientError α).mapError ClientError.native =
        .error (.native e.serverCode e.text) := rfl
    rw [hfail, hcode]
    cases complaintIn (s.replies.take asked.length) with
    | some c => exact ⟨e.text, rfl⟩
    | none => exact .inr ⟨e.text, rfl⟩

/-- **Codes of failed writes.** Bulk writes, replacements and deletions keep the codes of their
server. An insert of documents all at once keeps the code that a reply reports exactly if the server
refuses the command or a write, and it fails without a code if only the acknowledgement is missing.
So the failure of one insert is sorted alike on both paths exactly if its code is kept, or if the
code says what the text says: it is not that of a sample, and it is that of a taken key if and only
if the text names one. -/
theorem codes_of_failed_writes (db : Database) (name : String) :
    (∀ ws, KeepsCodes (db.bulkWrite name ws) (ws.map (db.requestFor name))) ∧
      (∀ docs upsert, KeepsCodes (db.replaceDocuments name docs upsert)
        (docs.map fun p => db.requestFor name (.replace p.1 p.2 upsert))) ∧
      (∀ ids, KeepsCodes (db.deleteDocuments name ids)
        [db.request (.delete name (idsQuery ids) 0)]) ∧
      ∀ (r : Reply) (rest : List Reply) (sent : List Request) (c : Complaint),
        r.complaint? = some c →
          (∀ docs, docs ≠ [] → ∃ text, (db.insertDocuments name docs).run.run ⟨r :: rest, sent⟩ =
            (.error (.native (if r.refuses then some c.code else none) text),
              ⟨rest, sent ++ [db.request (.insert name (docs.map fun p => p.2.withId p.1))]⟩)) ∧
          ∀ id d, ∃ e e' t,
            (db.insertDocuments name [(id, d)]).run.run ⟨r :: rest, sent⟩ = (.error e, t) ∧
            (db.bulkWrite name [.insert id d]).run.run ⟨r :: rest, sent⟩ = (.error e', t) ∧
            ((Failure.classify e).kindName = (Failure.classify e').kindName ↔
              r.refuses ∨ c.code ≠ sampleNoNonDuplicateCode ∧ (c.code ∈ duplicateKeyCodes ↔
                occursIn "duplicate key".toList c.message.toList)) := by
  refine ⟨fun ws => keepsCodes_native (Database.asks_writeAll db name ws), fun docs upsert => ?_,
    fun ids => keepsCodes_native (asks_write _ _), fun r rest sent c hc => ?_⟩
  · have h := keepsCodes_native (Database.asks_writeAll db name
      (docs.map fun p => .replace p.1 p.2 upsert))
    rwa [List.map_map] at h
  obtain ⟨e, he, hcode, hlost⟩ := outcome_checkInserts hc
  have hinsert (docs : List (String × Document)) (hd : docs ≠ []) :
      (db.insertDocuments name docs).run.run ⟨r :: rest, sent⟩ = (.error e.native,
        ⟨rest, sent ++ [db.request (.insert name (docs.map fun p => p.2.withId p.1))]⟩) := by
    rw [Database.run_insertDocuments db name _ hd, List.headD_cons, he]
    rfl
  refine ⟨fun docs hd => ⟨e.text, ?_⟩, fun id d => ?_⟩
  · rw [hinsert docs hd, ClientError.native, hcode]
  · obtain ⟨e', he', hcode'⟩ := exists_of_codeOf ((codeOf_outcome r fun _ =>
      ({ inserted := 1 } : WriteSummary)).trans (congrArg _ hc))
    refine ⟨e.native, e'.native, _, hinsert [(id, d)] (List.cons_ne_nil _ _),
      Database.run_bulkWrite_insert db name ⟨r :: rest, sent⟩ he', ?_⟩
    rw [ClientError.native, ClientError.native, hcode, hcode']
    cases hr : r.refuses with
    | true => simp [kindName_of_code]
    | false =>
      rw [hlost hr, ← occursIn_text_insertMany]
      simpa using kindName_eq_iff c.code (ClientError.insertMany none (some c)).text e'.text

/-- Of two writes that a server refuses the first counts. -/
theorem codes_of_failed_writes_refused :
    let r : Reply := {
      writeError := some ⟨11000, "E11000 duplicate key error"⟩
      furtherWriteErrors := [⟨121, "Document failed validation"⟩] }
    r.complaint? = some ⟨11000, "E11000 duplicate key error"⟩ ∧
      ∃ text, ((Database.mk "db").insertDocuments "c" [("a", []), ("b", [])]).run.run ⟨[r], []⟩ =
        (.error (.native (some 11000) text),
          ⟨[], [⟨"db", .insert "c" [[(idKey, .string "a")], [(idKey, .string "b")]]⟩]⟩) := by
  intro r
  have hr : r.complaint? = some ⟨11000, "E11000 duplicate key error"⟩ := rfl
  obtain ⟨-, -, -, h⟩ := codes_of_failed_writes ⟨"db"⟩ "c"
  exact ⟨hr, (h r [] [] _ hr).1 [("a", []), ("b", [])] (List.cons_ne_nil _ _)⟩

/-- A write is made and not acknowledged. The insert of documents all at once loses the code that
the bulk write keeps. -/
theorem code_lost_by_insertDocuments :
    let s : Session :=
      { replies := [{ writeConcernError := some ⟨64, "waiting for replication timed out"⟩ }] }
    (((Database.mk "db").insertDocuments "c" [("a", [])]).run.run s).1 =
        .error (.native none "Insert failed: waiting for replication timed out") ∧
      (((Database.mk "db").bulkWrite "c" [.insert "a" []]).run.run s).1 =
        .error (.native (some 64) "Write not acknowledged: waiting for replication timed out") :=
  ⟨rfl, rfl⟩

end DocumentDb.Remote
