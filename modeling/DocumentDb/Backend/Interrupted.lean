import DocumentDb.Backend

/-!
# Backends that fail on schedule

`Backend.interrupted` wraps a backend so that samples fail a given number of times before they
work, and so that every cursor loses the item at a given place. It also counts the samples that
were asked for. With it, one can watch how retries and streams deal with trouble.
-/

namespace DocumentDb

/-- Whether a pipeline picks documents at random. -/
def Pipeline.samples (p : Pipeline) : Bool :=
  p.stages.any fun
    | .sample _ => true
    | _ => false

/-- When a backend is to fail. -/
structure Interruptions where
  /-- The code with which samples fail, if the failure has one. -/
  code : Option Int
  /-- The place at which every cursor loses its item. -/
  cut : Option Nat

namespace Interruptions

/-- The error of a failing sample. -/
def sampleError (i : Interruptions) : Error :=
  .native i.code "sample failed"

/-- The error in the place of a lost item. -/
def lostItem : Error :=
  .native (some 43) "cursor lost"

/-- A cursor without the item that is to be lost. -/
def interrupt (i : Interruptions) (c : Cursor) : Cursor :=
  match i.cut with
  | some place => c.set place (.error lostItem)
  | none => c

end Interruptions

/-- A state with the number of samples that still have to fail, and of those that were asked for. -/
structure Interrupted (σ : Type) where
  inner : σ
  failuresLeft : Nat
  samplesRun : Nat := 0

namespace Interrupted

variable {σ α : Type}

/-- An action on the state inside. -/
def inside (a : Action σ α) : Action (Interrupted σ) α :=
  fun s =>
    let (r, inner) := a s.inner
    (r, { s with inner := inner })

/-- Notes that a sample is asked for, and tells whether it has to fail. -/
def noteSample (s : Interrupted σ) : Bool × Interrupted σ :=
  (s.failuresLeft != 0,
    { s with failuresLeft := s.failuresLeft - 1, samplesRun := s.samplesRun + 1 })

/-- Runs a pipeline, unless it is a sample that has to fail. -/
def aggregate (i : Interruptions) (a : Action σ Cursor) (p : Pipeline) :
    Action (Interrupted σ) Cursor := do
  if p.samples then
    let fails ← ExceptT.lift (modifyGet noteSample)
    if fails then throw i.sampleError
  return i.interrupt (← inside a)

end Interrupted

open Interrupted in
/-- A backend with interruptions. -/
def Backend.interrupted {σ : Type} (b : Backend σ) (i : Interruptions) :
    Backend (Interrupted σ) where
  insert name docs := inside (b.insert name docs)
  replace name docs upsert := inside (b.replace name docs upsert)
  delete name ids := inside (b.delete name ids)
  get name ids := inside (b.get name ids)
  find name filter := inside (b.find name filter)
  count name filter := inside (b.count name filter)
  aggregate name p := Interrupted.aggregate i (b.aggregate name p) p
  bulkWrite name ws := inside (b.bulkWrite name ws)
  createCollection name := inside (b.createCollection name)
  dropCollection name := inside (b.dropCollection name)
  listCollections := inside b.listCollections
  addIndex name field unique := inside (b.addIndex name field unique)
  dropIndex name field := inside (b.dropIndex name field)

end DocumentDb
