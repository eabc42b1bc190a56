import DocumentDb.Backend.Interrupted
import DocumentDb.Memory.Backend
import DocumentDb.Proofs.Result
import DocumentDb.Typed.Aggregation

/-!
# Streams, lists and sinks agree

The results of an aggregation can be streamed, collected, or delivered to a sink. All three give the
same results up to the first error, wherever it comes from.

**Cuts** (`Cut`). Any results are some values, one after the other, up to the first error or to
their end. What comes behind an error is left open, since a cursor may go on there.

**What a sink takes.** A sink takes values one after the other if `List.foldlM` of `Sink.accept`
does not fail. A `recorded` sink also keeps what it takes, and is otherwise the same sink.

**Theorem (`results_agree`).** An aggregation streams its results up to the first error and
including it, collects them if there is none, and delivers those in front of it, as far as the sink
takes them.
-/

namespace DocumentDb

/-! ## Up to the first error -/

section Cuts

variable {ε α : Type}

/-- Some values, and an error behind them if there is one. -/
def streamed (as : List α) (failure : Option ε) : List (Except ε α) :=
  as.map .ok ++ (failure.map .error).toList

/-- Some results are the values `as` up to the first error, `failure`, or up to their end. -/
inductive Cut : List (Except ε α) → List α → Option ε → Prop
  | ended : Cut [] [] none
  | failed (e : ε) (rest : List (Except ε α)) : Cut (.error e :: rest) [] (some e)
  | value (a : α) {rs : List (Except ε α)} {as : List α} {failure : Option ε}
      (h : Cut rs as failure) : Cut (.ok a :: rs) (a :: as) failure

/-- All results have a first error or an end. -/
theorem exists_cut (rs : List (Except ε α)) : ∃ as failure, Cut rs as failure := by
  induction rs with
  | nil => exact ⟨[], none, .ended⟩
  | cons r rs ih =>
    cases r with
    | error e => exact ⟨[], some e, .failed e rs⟩
    | ok a =>
      obtain ⟨as, failure, h⟩ := ih
      exact ⟨a :: as, failure, .value a h⟩

/-- What is streamed is the front of the results, and all of them if there is no error. -/
theorem Cut.exists_eq_append {rs : List (Except ε α)} {as : List α} {failure : Option ε}
    (h : Cut rs as failure) :
    ∃ rest, rs = streamed as failure ++ rest ∧ (failure = none → rest = []) := by
  induction h with
  | ended => exact ⟨[], rfl, fun _ => rfl⟩
  | failed e rest => exact ⟨rest, rfl, fun h => by cases h⟩
  | value a _ ih =>
    obtain ⟨rest, hrs, hrest⟩ := ih
    exact ⟨rest, congrArg (.ok a :: ·) hrs, hrest⟩

theorem collect_streamed (as : List α) (failure : Option ε) :
    collect (streamed as failure) = failure.elim (.ok as) .error := by
  induction as with
  | nil => cases failure <;> rfl
  | cons a as ih =>
    show (collect (streamed as failure) >>= fun bs => pure (a :: bs)) = _
    rw [ih]
    cases failure <;> rfl

/-- Decoding stops behind the first error. -/
theorem decodeCursor_of_cut {c : Converter α} {cursor : Cursor} {as : List α}
    {failure : Option Error} (h : Cut (cursor.map (· >>= c.ofDocument)) as failure) :
    decodeCursor c cursor = streamed as failure := by
  induction cursor generalizing as with
  | nil =>
    cases h
    rfl
  | cons r cursor ih =>
    cases r with
    | error e =>
      cases h
      rfl
    | ok d =>
      change Cut (c.ofDocument d :: cursor.map (· >>= c.ofDocument)) as failure at h
      rw [decodeCursor]
      cases hd : c.ofDocument d with
      | error e =>
        rw [hd] at h
        cases h
        rfl
      | ok a =>
        rw [hd] at h
        cases h with
        | value _ h => exact congrArg (.ok a :: ·) (ih h)

end Cuts

/-! ## Sinks -/

namespace Sink

variable {α τ : Type}

/-- The same sink, which also keeps what it takes in order. -/
def recorded (sink : Sink α τ) : Sink α (List α × τ) where
  accept p a := (sink.accept p.2 a).map fun t => (p.1 ++ [a], t)
  close p := sink.close p.2

variable {sink : Sink α τ} {t u : τ} {as : List α}

/-- Keeping what is taken makes no other difference. -/
theorem deliver_eq_recorded (sink : Sink α τ) (count : Nat) (t : τ) (kept : List α)
    (rs : List (Except Error α)) :
    sink.deliver count t rs =
      ((sink.recorded.deliver count (kept, t) rs).1,
        (sink.recorded.deliver count (kept, t) rs).2.2) := by
  induction rs generalizing count t kept with
  | nil =>
    rw [deliver, deliver]
    cases h : sink.close t <;> simp [recorded, h]
  | cons r rs ih =>
    cases r with
    | error e => rfl
    | ok a =>
      rw [deliver, deliver]
      cases h : sink.accept t a with
      | error reason => simp [recorded, h, Except.map]
      | ok u => simpa [recorded, h, Except.map] using ih (count + 1) u (kept ++ [a])

theorem foldlM_recorded (h : as.foldlM sink.accept t = .ok u) (kept : List α) :
    as.foldlM sink.recorded.accept (kept, t) = .ok (kept ++ as, u) := by
  induction as generalizing t kept with
  | nil =>
    cases h
    simp [pure, Except.pure]
  | cons a as ih =>
    rw [List.foldlM_cons] at h ⊢
    obtain ⟨t', ha, h⟩ := bind_eq_ok_iff.1 h
    have hkept : sink.recorded.accept (kept, t) a = .ok (kept ++ [a], t') := by
      simp [recorded, ha, Except.map]
    have hrest := ih h (kept ++ [a])
    rw [List.append_assoc] at hrest
    rw [hkept]
    exact hrest

/-- Values that a sink takes are delivered before what comes behind them. -/
theorem deliver_append (h : as.foldlM sink.accept t = .ok u) (count : Nat)
    (rs : List (Except Error α)) :
    sink.deliver count t (as.map .ok ++ rs) = sink.deliver (count + as.length) u rs := by
  induction as generalizing t count with
  | nil =>
    cases h
    rfl
  | cons a as ih =>
    rw [List.foldlM_cons] at h
    obtain ⟨t', ha, h⟩ := bind_eq_ok_iff.1 h
    rw [List.map_cons, List.cons_append, deliver, ha, List.length_cons, Nat.add_comm as.length,
      ← Nat.add_assoc]
    exact ih h (count + 1)

theorem deliver_of_taken {failure : Option Error} (h : as.foldlM sink.accept t = .ok u)
    (hc : failure = none → sink.close u = .ok ()) (count : Nat) :
    sink.deliver count t (streamed as failure) =
      (failure.elim (.ok (count + as.length)) .error, u) := by
  rw [streamed, deliver_append h]
  cases failure with
  | none =>
    show sink.deliver _ u [] = _
    rw [deliver, hc rfl]
    rfl
  | some e => rfl

theorem deliver_of_refused {a : α} {reason : String} (h : as.foldlM sink.accept t = .ok u)
    (ha : sink.accept u a = .error reason) (count : Nat) (rs : List (Except Error α)) :
    sink.deliver count t (as.map .ok ++ .ok a :: rs) = (.error (refusal reason), u) := by
  rw [deliver_append h, deliver, ha]

end Sink

/-! ## Main result -/

section Aggregations

variable {σ α τ : Type} {a : Aggregation σ α} {s t : σ} {cursor : Cursor} {as : List α}
  {failure : Option Error}

theorem run_stream (h : (a.backend.aggregate a.collection a.pipeline).run.run s = (.ok cursor, t))
    (hc : Cut (cursor.map (· >>= a.converter.ofDocument)) as failure) :
    a.stream.run.run s = (.ok (streamed as failure), t) := by
  rw [Aggregation.stream, run_bind_of_ok h, decodeCursor_of_cut hc]
  rfl

theorem run_toList (h : a.stream.run.run s = (.ok (streamed as failure), t)) :
    a.toList.run.run s = (failure.elim (.ok as) .error, t) := by
  rw [Aggregation.toList, run_bind_of_ok h, collect_streamed]
  cases failure <;> rfl

theorem deliverTo_eq {rs : List (Except Error α)} (h : a.stream.run.run s = (.ok rs, t))
    (sink : Sink α τ) (u : τ) : a.deliverTo sink u s = (sink.deliver 0 u rs, t) := by
  have hs : a.stream s = (.ok rs, t) := h
  rw [Aggregation.deliverTo, hs]

/-- **Streams, lists and sinks agree.** Let an aggregation decode what a cursor delivers, which are
some values up to the first error, of the cursor or of the converter, or up to the end. Then these
values are streamed in order, with that error behind them and nothing else. They are collected if
there is no error, which is given otherwise. A sink that takes them has received exactly them, and
their number is given if there is no error, which is given otherwise. A sink that refuses one of
them has received exactly those in front of it, and the refusal is given. -/
theorem results_agree (h : (a.backend.aggregate a.collection a.pipeline).run.run s =
    (.ok cursor, t)) :
    let results := cursor.map (· >>= a.converter.ofDocument)
    (∃ as failure, Cut results as failure) ∧
      ∀ as failure, Cut results as failure →
        (∃ rest, results = streamed as failure ++ rest ∧ (failure = none → rest = [])) ∧
        a.stream.run.run s = (.ok (streamed as failure), t) ∧
        a.toList.run.run s = (failure.elim (.ok as) .error, t) ∧
        ∀ (τ : Type) (sink : Sink α τ) (u : τ),
          let d := a.deliverTo sink.recorded ([], u) s
          a.deliverTo sink u s = ((d.1.1, d.1.2.2), d.2) ∧
          (∀ u', as.foldlM sink.accept u = .ok u' → (failure = none → sink.close u' = .ok ()) →
            d = ((failure.elim (.ok as.length) .error, (as, u')), t)) ∧
          ∀ front b back u' reason, as = front ++ b :: back →
            front.foldlM sink.accept u = .ok u' → sink.accept u' b = .error reason →
              d = ((.error (.unknown ("result sink failed: " ++ reason)), (front, u')), t) := by
  intro results
  refine ⟨exists_cut results, fun as failure hc => ?_⟩
  have hstream := run_stream h hc
  refine ⟨hc.exists_eq_append, hstream, run_toList hstream, fun τ sink u => ?_⟩
  intro d
  have hd : d = (sink.recorded.deliver 0 ([], u) (streamed as failure), t) :=
    deliverTo_eq hstream sink.recorded ([], u)
  refine ⟨?_, fun u' hu hclose => ?_, ?_⟩
  · rw [deliverTo_eq hstream, hd, ← Sink.deliver_eq_recorded]
  · rw [hd, Sink.deliver_of_taken (Sink.foldlM_recorded hu []) hclose]
    simp
  · rintro front b back u' reason rfl hu hb
    have hrefused : sink.recorded.accept (front, u') b = .error reason := by
      simp [Sink.recorded, hb, Except.map]
    rw [hd, streamed, List.map_append, List.append_assoc, List.map_cons, List.cons_append,
      Sink.deliver_of_refused (Sink.foldlM_recorded hu []) hrefused]
    rfl

/-- A cursor loses its second document and goes on. A sink with room for one value has received what
is in front of the error, and a sink without room has received nothing. -/
theorem results_agree_around_lost_item :
    let d (n : Int32) : Document := Document.single "x" (.int32 n)
    let a : Aggregation (Interrupted Memory.Store) Document :=
      ⟨"c", Memory.backend.interrupted ⟨none, some 1⟩, ⟨.ok, .ok⟩, .empty⟩
    let s : Interrupted Memory.Store :=
      ⟨{ collections := [("c", { documents := [d 0, d 1, d 2] })] }, 0, 0⟩
    let lost := Interruptions.lostItem
    (a.backend.aggregate "c" .empty).run.run s = (.ok [.ok (d 0), .error lost, .ok (d 2)], s) ∧
      a.stream.run.run s = (.ok [.ok (d 0), .error lost], s) ∧
      a.toList.run.run s = (.error lost, s) ∧
      (a.deliverTo (Sink.bucket (some 1) false).recorded ([], []) s).1 =
        (.error lost, ([d 0], [d 0])) ∧
      (a.deliverTo (Sink.bucket (some 0) false).recorded ([], []) s).1 =
        (.error (.unknown "result sink failed: bucket full"), ([], [])) := by
  intro d a s lost
  have h : (a.backend.aggregate a.collection a.pipeline).run.run s =
      (.ok [.ok (d 0), .error lost, .ok (d 2)], s) := rfl
  have hcut : Cut [.ok (d 0), .error lost, .ok (d 2)] [d 0] (some lost) :=
    .value (d 0) (.failed lost _)
  obtain ⟨-, hstream, hlist, hsink⟩ := (results_agree h).2 [d 0] (some lost) hcut
  obtain ⟨-, htaken, -⟩ := hsink _ (Sink.bucket (some 1) false) []
  obtain ⟨-, -, hrefused⟩ := hsink _ (Sink.bucket (some 0) false) []
  refine ⟨h, hstream, hlist, ?_, ?_⟩
  · rw [htaken [d 0] rfl (by simp)]
    rfl
  · rw [hrefused [] (d 0) [] [] "bucket full" rfl rfl rfl]
    rfl

end Aggregations

end DocumentDb
