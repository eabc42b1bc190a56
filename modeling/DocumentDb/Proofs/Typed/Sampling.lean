import DocumentDb.Backend.Interrupted
import DocumentDb.Memory.Backend
import DocumentDb.Proofs.Memory.Call
import DocumentDb.Proofs.Result
import DocumentDb.Typed.Collection
import Mathlib.Logic.Function.Iterate

/-!
# Samples are tried again as often as allowed

A sample asks the backend for one aggregation after the other, until one of them ends otherwise than
for want of distinct documents, or until the retries are used up.

**Outcomes** (`TypedCollection.drawn`). The aggregation can be run over and over, whatever comes of
it. Each run has an outcome: the decoded results, or the first error, which is one of the
aggregation as a whole, of its cursor or of the converter. After the first run the other outcomes
are those from the state that it leaves, which is what the induction over the retries follows
(`run_sample`).

**Calls** (`Backend.logged`). A backend that notes all calls tells how often a sample has run the
aggregation, and that it has asked for nothing else.

**Theorem (`sample_retries_leading`).** Of the outcomes, the leading ones that lack distinct
documents are passed over, at most as many as there are retries, and the next one is given.
-/

namespace DocumentDb

/-! ## Noting calls -/

section

variable {σ α : Type}

/-- An action that is noted as a call. -/
def Action.noted (call : Call) (a : Action σ α) : Action (σ × List Call) α :=
  fun s =>
    let (r, t) := a s.1
    (r, (t, s.2 ++ [call]))

/-- The same backend, which notes all calls in order. -/
def Backend.logged (b : Backend σ) : Backend (σ × List Call) where
  insert name docs := (b.insert name docs).noted (.insert name docs)
  replace name docs upsert := (b.replace name docs upsert).noted (.replace name docs upsert)
  delete name ids := (b.delete name ids).noted (.delete name ids)
  get name ids := (b.get name ids).noted (.get name ids)
  find name filter := (b.find name filter).noted (.find name filter)
  count name filter := (b.count name filter).noted (.count name filter)
  aggregate name p := (b.aggregate name p).noted (.aggregate name p)
  bulkWrite name ws := (b.bulkWrite name ws).noted (.bulkWrite name ws)
  createCollection name := (b.createCollection name).noted (.createCollection name)
  dropCollection name := (b.dropCollection name).noted (.dropCollection name)
  listCollections := b.listCollections.noted .listCollections
  addIndex name field unique := (b.addIndex name field unique).noted (.addIndex name field unique)
  dropIndex name field := (b.dropIndex name field).noted (.dropIndex name field)

end

/-! ## Outcomes -/

/-- A result is the failure of a sample without enough distinct documents. -/
def Repeated {α : Type} (r : Except Error α) : Prop :=
  ∃ e, classified r = .error (.sampleNoNonDuplicate e)

/-- There is one code with which a result is repeated. -/
theorem repeated_iff {α : Type} {r : Except Error α} :
    Repeated r ↔ ∃ detail, r = .error (.native (some 28799) detail) := by
  constructor
  · rintro ⟨e', h⟩
    cases r with
    | ok a => cases h
    | error e =>
      have hclass : Failure.classify e = .sampleNoNonDuplicate e' := Except.error.inj h
      unfold Failure.classify at hclass
      split at hclass
      · cases hclass
      · cases hclass
      · next code detail =>
        split at hclass
        · cases hclass
        · split at hclass
          · next hcode => exact ⟨detail, by rw [hcode, sampleNoNonDuplicateCode]⟩
          · cases hclass
      · split at hclass <;> cases hclass
      · cases hclass
  · rintro ⟨detail, rfl⟩
    exact ⟨.native (some 28799) detail, rfl⟩

theorem collect_decodeCursor {α : Type} (c : Converter α) (cursor : Cursor) :
    collect (decodeCursor c cursor) = cursor.mapM (· >>= c.ofDocument) := by
  induction cursor with
  | nil => rfl
  | cons r cursor ih =>
    rw [List.mapM_cons]
    cases r with
    | error e => rfl
    | ok d =>
      rw [decodeCursor]
      show _ = (c.ofDocument d >>= _)
      cases c.ofDocument d with
      | error e => rfl
      | ok a =>
        show (collect (decodeCursor c cursor) >>= _) = _
        rw [ih]
        rfl

/-- A list of results fails with the first error, wherever it comes from. -/
theorem Aggregation.run_toList_eq_mapM {σ α : Type} (a : Aggregation σ α) (s : σ) :
    let r := (a.backend.aggregate a.collection a.pipeline).run.run s
    a.toList.run.run s =
      (r.1 >>= fun cursor => cursor.mapM (· >>= a.converter.ofDocument), r.2) := by
  intro r
  have hstream : a.stream.run.run s = (r.1.map (decodeCursor a.converter), r.2) := by
    rw [stream, run_bind_pure]
  rw [toList, run_bind, hstream]
  cases r.1 with
  | error e => rfl
  | ok cursor =>
    show ((MonadExcept.ofExcept (collect (decodeCursor a.converter cursor)) :
      Action σ (List α)).run.run r.2) = (cursor.mapM (· >>= a.converter.ofDocument), r.2)
    rw [collect_decodeCursor]
    cases cursor.mapM (· >>= a.converter.ofDocument) <;> rfl

namespace TypedCollection

variable {σ α : Type}

/-- The aggregation that a sample runs. -/
def draw (c : TypedCollection σ α) (size : Nat) : Action σ Cursor :=
  c.backend.aggregate c.name (Pipeline.empty.sample size)

/-- The state after the aggregation was run so many times. -/
def afterDraws (c : TypedCollection σ α) (size : Nat) (s : σ) (i : Nat) : σ :=
  (stateAfter (c.draw size))^[i] s

/-- The outcome of the aggregation when it was run so many times before. -/
def drawn (c : TypedCollection σ α) (size : Nat) (s : σ) (i : Nat) : Except Error (List α) := do
  let cursor ← ((c.draw size).run.run (c.afterDraws size s i)).1
  cursor.mapM (· >>= c.converter.ofDocument)

theorem afterDraws_succ (c : TypedCollection σ α) (size : Nat) (s : σ) (i : Nat) :
    c.afterDraws size s (i + 1) = c.afterDraws size (c.afterDraws size s 1) i := rfl

theorem drawn_succ (c : TypedCollection σ α) (size : Nat) (s : σ) (i : Nat) :
    c.drawn size s (i + 1) = c.drawn size (c.afterDraws size s 1) i := rfl

/-! ## The run -/

variable {c : TypedCollection σ α} {size r n : Nat} {s : σ}

theorem run_sampleOnce (c : TypedCollection σ α) (size : Nat) (s : σ) :
    (c.sampleOnce size).run.run s = (classified (c.drawn size s 0), c.afterDraws size s 1) := by
  have h := (c.aggregate.withPipeline (Pipeline.empty.sample size)).run_toList_eq_mapM s
  show (classified ((c.aggregate.withPipeline (Pipeline.empty.sample size)).toList.run.run s).1,
    ((c.aggregate.withPipeline (Pipeline.empty.sample size)).toList.run.run s).2) = _
  rw [h]
  rfl

theorem run_sample_succ_of_repeated (h : Repeated (c.drawn size s 0)) (r : Nat) :
    (c.sample size (r + 1)).run.run s = (c.sample size r).run.run (c.afterDraws size s 1) := by
  obtain ⟨e, he⟩ := h
  rw [sample, run_tryCatch, run_sampleOnce, he]

theorem run_sample_succ_of_not_repeated (h : ¬ Repeated (c.drawn size s 0)) (r : Nat) :
    (c.sample size (r + 1)).run.run s =
      (classified (c.drawn size s 0), c.afterDraws size s 1) := by
  rw [sample, run_tryCatch, run_sampleOnce]
  cases hr : classified (c.drawn size s 0) with
  | ok as => rfl
  | error failure =>
    cases failure with
    | sampleNoNonDuplicate e => exact absurd ⟨e, hr⟩ h
    | _ => rfl

/-- A sample passes over repeated outcomes. -/
theorem run_sample (hn : n ≤ r) (hrepeated : ∀ i < n, Repeated (c.drawn size s i))
    (hlast : n < r → ¬ Repeated (c.drawn size s n)) :
    (c.sample size r).run.run s = (classified (c.drawn size s n), c.afterDraws size s (n + 1)) := by
  induction n generalizing r s with
  | zero =>
    cases r with
    | zero => exact run_sampleOnce c size s
    | succ r => exact run_sample_succ_of_not_repeated (hlast (Nat.succ_pos r)) r
  | succ n ih =>
    cases r with
    | zero => omega
    | succ r =>
      rw [run_sample_succ_of_repeated (hrepeated 0 (Nat.succ_pos n)), drawn_succ, afterDraws_succ]
      refine ih (Nat.le_of_succ_le_succ hn) (fun i hi => ?_) fun hnr => ?_
      · exact hrepeated (i + 1) (Nat.succ_lt_succ hi)
      · exact hlast (Nat.succ_lt_succ hnr)

/-! ## Calls of the backend -/

/-- The same collection on a backend that notes all calls. -/
def logged (c : TypedCollection σ α) : TypedCollection (σ × List Call) α where
  name := c.name
  backend := c.backend.logged
  converter := c.converter
  sampleRetries := c.sampleRetries

theorem afterDraws_logged (c : TypedCollection σ α) (size : Nat) (s : σ) (log : List Call)
    (i : Nat) :
    c.logged.afterDraws size (s, log) i =
      (c.afterDraws size s i,
        log ++ List.replicate i (.aggregate c.name (Pipeline.empty.sample size))) := by
  induction i generalizing s log with
  | zero => exact Prod.ext rfl (List.append_nil log).symm
  | succ i ih =>
    have hfirst : c.logged.afterDraws size (s, log) 1 =
        (c.afterDraws size s 1, log ++ [.aggregate c.name (Pipeline.empty.sample size)]) := rfl
    rw [afterDraws_succ, hfirst, ih, ← afterDraws_succ, List.append_assoc, List.replicate_succ,
      List.singleton_append]

theorem drawn_logged (c : TypedCollection σ α) (size : Nat) (s : σ) (log : List Call) (i : Nat) :
    c.logged.drawn size (s, log) i = c.drawn size s i := by
  have hrun (t : σ) (l : List Call) :
      ((c.logged.draw size).run.run (t, l)).1 = ((c.draw size).run.run t).1 := rfl
  rw [drawn, afterDraws_logged, hrun]
  rfl

/-! ## Main result -/

/-- Up to a bound a property holds of so many numbers in a row. -/
theorem exists_leading (P : Nat → Prop) (r : Nat) :
    ∃ n ≤ r, (∀ i < n, P i) ∧ (n < r → ¬ P n) := by
  induction r with
  | zero => exact ⟨0, Nat.le_refl 0, by simp, by simp⟩
  | succ r ih =>
    obtain ⟨n, hn, hbelow, hlast⟩ := ih
    by_cases hnr : n < r
    · exact ⟨n, by omega, hbelow, fun _ => hlast hnr⟩
    · obtain rfl : n = r := by omega
      by_cases hP : P n
      · refine ⟨n + 1, Nat.le_refl _, fun i hi => ?_, by simp⟩
        rcases Nat.lt_succ_iff_lt_or_eq.1 hi with hi | rfl
        · exact hbelow i hi
        · exact hP
      · exact ⟨n, by omega, hbelow, fun _ => hP⟩

theorem eq_min_of_leading {P : Nat → Prop} {k : Nat} (hn : n ≤ r) (hbelow : ∀ i < n, P i)
    (hlast : n < r → ¬ P n) (hk : ∀ i < k, P i) (hkP : ¬ P k) : n = min k r := by
  have hnk : n ≤ k := by
    by_contra h
    exact hkP (hbelow k (by omega))
  by_cases hnr : n < r
  · have hkn : k ≤ n := by
      by_contra h
      exact hlast hnr (hk n (by omega))
    omega
  · omega

/-- **Samples are tried again as often as allowed.** A sample passes over the leading outcomes that
lack distinct documents, at most as many as there are retries, and gives the next one. So no other
failure is tried again, and no success is dropped. The aggregation is run once for each outcome that
is passed over and once more, and nothing else is asked of the backend. -/
theorem sample_retries_leading (c : TypedCollection σ α) (size r : Nat) (s : σ)
    (log : List Call) :
    let outcome := c.drawn size s
    (∀ i, Repeated (outcome i) ↔ ∃ detail, outcome i = .error (.native (some 28799) detail)) ∧
    ∃ n ≤ r,
      (∀ i < n, Repeated (outcome i)) ∧ (n < r → ¬ Repeated (outcome n)) ∧
      (∀ k, (∀ i < k, Repeated (outcome i)) → ¬ Repeated (outcome k) → n = min k r) ∧
      ((∀ i, Repeated (outcome i)) → n = r) ∧
      (c.sample size r).run.run s = (classified (outcome n), c.afterDraws size s (n + 1)) ∧
      (c.logged.sample size r).run.run (s, log) =
        (classified (outcome n), c.afterDraws size s (n + 1),
          log ++ List.replicate (n + 1) (.aggregate c.name (Pipeline.empty.sample size))) := by
  intro outcome
  obtain ⟨n, hn, hrepeated, hlast⟩ := exists_leading (fun i => Repeated (outcome i)) r
  refine ⟨fun i => repeated_iff, n, hn, hrepeated, hlast,
    fun k => eq_min_of_leading hn hrepeated hlast, fun hall => ?_,
    run_sample hn hrepeated hlast, ?_⟩
  · by_contra hne
    exact hlast (by omega) (hall n)
  · have houtcome : c.logged.drawn size (s, log) = outcome := funext (drawn_logged c size s log)
    rw [run_sample (c := c.logged) hn (houtcome ▸ hrepeated) (houtcome ▸ hlast), houtcome,
      afterDraws_logged]

/-- After two failures a sample is there at the third run, unless only one retry is allowed. -/
theorem sample_retries_leading_two_failures :
    let people : TypedCollection (Interrupted Memory.Store) Document :=
      ⟨"people", Memory.backend.interrupted ⟨some 28799, none⟩, ⟨.ok, .ok⟩, 3⟩
    let d : Document := Document.single "x" (.int32 1)
    let s : Interrupted Memory.Store :=
      ⟨{ collections := [("people", { documents := [d] })] }, 2, 0⟩
    let asked : Call := .aggregate "people" (Pipeline.empty.sample 1)
    (∃ t, (people.logged.sample 1 3).run.run (s, []) = (.ok [d], t, [asked, asked, asked])) ∧
      ∃ e t, (people.logged.sample 1 1).run.run (s, []) =
        (.error (.sampleNoNonDuplicate e), t, [asked, asked]) := by
  intro people d s asked
  have hfirst : ∀ i < 2, Repeated (people.drawn 1 s i) := by
    intro i hi
    have : i = 0 ∨ i = 1 := by omega
    rcases this with rfl | rfl <;> exact ⟨_, rfl⟩
  have hthird : people.drawn 1 s 2 = .ok [d] := rfl
  have hnot : ¬ Repeated (people.drawn 1 s 2) := by
    rw [hthird]
    rintro ⟨e, he⟩
    cases he
  obtain ⟨-, n, -, -, -, hn, -, -, hrun⟩ := sample_retries_leading people 1 3 s []
  obtain rfl : n = 2 := hn 2 hfirst hnot
  obtain ⟨-, m, -, -, -, hm, -, -, hrun'⟩ := sample_retries_leading people 1 1 s []
  obtain rfl : m = 1 := hm 2 hfirst hnot
  rw [hthird] at hrun
  exact ⟨⟨_, hrun⟩, _, _, hrun'⟩

end TypedCollection

end DocumentDb
