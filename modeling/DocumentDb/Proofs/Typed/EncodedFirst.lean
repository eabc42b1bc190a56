import DocumentDb.Proofs.Typed.Sampling
import DocumentDb.Records.Person

/-!
# Records are encoded before anything is written

A write of records has two phases. First all records are encoded, which the backend has no part in,
and only then is the backend asked, once and for all of them.

**Encoding errors** (`TypedCollection.encodingError?`). Of some records the first that does not
encode gives the error. The records of a batch are those of its writes, in their order; a deletion
has none.

**Theorem (`records_encoded_first`).** If a record does not encode, whatever stands before it or
behind it, then the write fails with the error of the first such record, asks the backend for
nothing and leaves everything as it was. Otherwise the backend is asked exactly once.
-/

namespace DocumentDb

/-! ## Encoding errors -/

/-- The record that a write of a batch is about; a deletion has none. -/
def BatchWrite.record? {α : Type} [Record α] : BatchWrite α → Option α
  | insert a | update a | upsert a => some a
  | delete _ => none

/-- The records of a batch, in the order of its writes. -/
def Batch.records {α : Type} [Record α] (b : Batch α) : List α :=
  b.writes.filterMap BatchWrite.record?

namespace TypedCollection

variable {σ α β γ : Type}

/-- The error of the first of some records that does not encode. -/
def encodingError? (c : TypedCollection σ α) (as : List α) : Option Error :=
  as.findSome? fun a => failure? (c.converter.toDocument a)

/-- The records in front of the one that gives the error all encode. -/
theorem encodingError?_eq_some_iff {c : TypedCollection σ α} {as : List α} {e : Error} :
    c.encodingError? as = some e ↔
      ∃ front a back, as = front ++ a :: back ∧ c.converter.toDocument a = .error e ∧
        ∀ b ∈ front, ∃ d, c.converter.toDocument b = .ok d := by
  simp only [encodingError?, List.findSome?_eq_some_iff, failure?_eq_some_iff,
    failure?_eq_none_iff]

variable [Record α]

theorem failure?_encode (c : TypedCollection σ α) (a : α) :
    failure? (c.encode a) = failure? (c.converter.toDocument a) :=
  failure?_bind_pure _ _

theorem failure?_encodeWrite (c : TypedCollection σ α) (w : BatchWrite α) :
    failure? (c.encodeWrite w) =
      w.record?.bind fun a => failure? (c.converter.toDocument a) := by
  cases w with
  | insert a | update a | upsert a => exact (failure?_bind_pure _ _).trans (c.failure?_encode a)
  | delete id => rfl

theorem failure?_encodeAll (c : TypedCollection σ α) (as : List α) :
    failure? (c.encodeAll as) = c.encodingError? as := by
  rw [encodeAll, failure?_mapM, funext c.failure?_encode, encodingError?]

theorem failure?_encodeWrites (c : TypedCollection σ α) (b : Batch α) :
    failure? (b.writes.mapM c.encodeWrite) = c.encodingError? b.records := by
  rw [failure?_mapM, funext c.failure?_encodeWrite, encodingError?, Batch.records,
    ← List.head?_filterMap, ← List.head?_filterMap, List.filterMap_filterMap]

/-! ## Two phases -/

/-- A write of records, and the same write on a backend that notes all calls. If a record does not
encode, then both fail with its error, and no call is noted. If there is no such record, then one
call is noted. -/
structure EncodesFirst (error? : Option Error) (x : Outcome σ β)
    (noted : Outcome (σ × List Call) β) : Prop where
  failed : ∀ e, error? = some e → ∀ s, x.run.run s = (.error (.classify e), s)
  unasked : ∀ e, error? = some e → ∀ s log, noted.run.run (s, log) = (.error (.classify e), s, log)
  asked : error? = none → ∀ s log, ∃ call, (noted.run.run (s, log)).2.2 = log ++ [call]

/-- What is encoded decides between a failure that touches nothing and the second phase. -/
theorem encodesFirst_bind {r : Except Error γ} {f : γ → Outcome σ β}
    {g : γ → Outcome (σ × List Call) β}
    (hg : ∀ a s log, ∃ call, ((g a).run.run (s, log)).2.2 = log ++ [call]) :
    EncodesFirst (failure? r) (do f (← MonadExcept.ofExcept (classified r)))
      (do g (← MonadExcept.ofExcept (classified r))) := by
  cases r with
  | error e =>
    constructor
    · rintro _ ⟨⟩ s
      rfl
    · rintro _ ⟨⟩ s log
      rfl
    · rintro ⟨⟩
  | ok a =>
    constructor
    · rintro _ ⟨⟩
    · rintro _ ⟨⟩
    · exact fun _ s log => hg a s log

/-- A check of the result asks for nothing more. -/
theorem EncodesFirst.check {error? : Option Error} {x : Outcome σ β}
    {noted : Outcome (σ × List Call) β} (h : EncodesFirst error? x noted) (f : β → Outcome σ γ)
    {g : β → Outcome (σ × List Call) γ} (hg : ∀ b t, ((g b).run.run t).2 = t) :
    EncodesFirst error? (x >>= f) (noted >>= g) where
  failed e he s := by rw [run_bind, h.failed e he]
  unasked e he s log := by rw [run_bind, h.unasked e he]
  asked he s log := by
    obtain ⟨call, hcall⟩ := h.asked he s log
    refine ⟨call, ?_⟩
    rw [← hcall, run_bind]
    obtain ⟨_ | b, t⟩ := noted.run.run (s, log)
    · rfl
    · exact congrArg Prod.snd (hg b t)

/-! ## Writes of records -/

variable (c : TypedCollection σ α)

theorem encodesFirst_insertMany (as : List α) :
    EncodesFirst (c.encodingError? as) (c.insertMany as) (c.logged.insertMany as) := by
  rw [← failure?_encodeAll]
  refine encodesFirst_bind fun docs s log => ⟨.insert c.name docs, ?_⟩
  rw [run_bind_pure _ fun _ => as]
  rfl

theorem encodesFirst_replaceMany (as : List α) (upsert : Bool) :
    EncodesFirst (c.encodingError? as) (c.replaceMany as upsert)
      (c.logged.replaceMany as upsert) := by
  rw [← failure?_encodeAll]
  exact encodesFirst_bind fun docs s log => ⟨.replace c.name docs upsert, rfl⟩

theorem encodesFirst_execute (b : Batch α) :
    EncodesFirst (c.encodingError? b.records) (c.execute b) (c.logged.execute b) := by
  rw [← failure?_encodeWrites]
  exact encodesFirst_bind fun ws s log => ⟨.bulkWrite c.name ws, rfl⟩

/-- **Records are encoded first.** Inserts, updates and upserts of several records and the writes of
a batch ask their backend for nothing if a record does not encode, and fail with the error of the
first such record; so do inserts, updates and upserts of one record. If all records encode, then
they ask it once. -/
theorem records_encoded_first :
    (∀ as,
      EncodesFirst (c.encodingError? as) (c.insertMany as) (c.logged.insertMany as) ∧
      EncodesFirst (c.encodingError? as) (c.updateMany as) (c.logged.updateMany as) ∧
      EncodesFirst (c.encodingError? as) (c.upsertMany as) (c.logged.upsertMany as)) ∧
    (∀ b : Batch α,
      EncodesFirst (c.encodingError? b.records) (c.execute b) (c.logged.execute b)) ∧
    (∀ a,
      EncodesFirst (c.encodingError? [a]) (c.insert a) (c.logged.insert a) ∧
      EncodesFirst (c.encodingError? [a]) (c.update a) (c.logged.update a) ∧
      EncodesFirst (c.encodingError? [a]) (c.upsert a) (c.logged.upsert a)) ∧
    ∀ as e, c.encodingError? as = some e ↔
      ∃ front a back, as = front ++ a :: back ∧ c.converter.toDocument a = .error e ∧
        ∀ b ∈ front, ∃ d, c.converter.toDocument b = .ok d := by
  refine ⟨fun as => ⟨?_, ?_, ?_⟩, c.encodesFirst_execute, fun a => ⟨?_, ?_, ?_⟩,
    fun as e => encodingError?_eq_some_iff⟩
  · exact c.encodesFirst_insertMany as
  · exact c.encodesFirst_replaceMany as false
  · exact c.encodesFirst_replaceMany as true
  · exact (c.encodesFirst_insertMany [a]).check _ fun _ _ => rfl
  · refine (c.encodesFirst_replaceMany [a] false).check _ fun summary t => ?_
    by_cases h : summary.matched = 0
    · rw [if_pos h]
      rfl
    · rw [if_neg h]
      rfl
  · exact (c.encodesFirst_replaceMany [a] true).check _ fun _ _ => rfl

/-- A batch removes Ada, adds Bob and ends with a person who is refused. Ada stays, and Bob is not
added. -/
theorem records_encoded_first_behind_deletion :
    let people : TypedCollection Memory.Store Records.Person :=
      ⟨"people", Memory.backend, Records.Person.pickyConverter, 3⟩
    let ada : Records.Person := ⟨⟨"1", by decide⟩, "Ada", 36, []⟩
    let bob : Records.Person := ⟨⟨"2", by decide⟩, "Bob", 41, []⟩
    let refused : Records.Person := ⟨⟨"3", by decide⟩, "bad", 7, []⟩
    let b := ((Batch.empty.delete ada.id).insert bob).upsert refused
    let s : Memory.Store := { collections := [("people", { documents := [ada.document] })] }
    people.encodingError? b.records = some (.invalidDocument "bad person") ∧
      (people.logged.execute b).run.run (s, []) =
        (.error (.unknown (.invalidDocument "bad person")), s, []) := by
  intro people ada bob refused b s
  have herror : people.encodingError? b.records = some (.invalidDocument "bad person") := rfl
  exact ⟨herror, ((records_encoded_first people).2.1 b).unasked _ herror s []⟩

end TypedCollection

end DocumentDb
