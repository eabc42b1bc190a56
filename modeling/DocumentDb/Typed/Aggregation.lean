import DocumentDb.Backend
import DocumentDb.Codec.Converter
import DocumentDb.Pipeline.Render

/-!
# Typed aggregations

A pipeline over one collection whose results are decoded by a converter.

**Results** are decoded as the cursor delivers them. The first error, of the cursor or of the
converter, is the last result; whatever the cursor holds after it is not looked at.

**Sinks** take the results one by one. A sink can refuse a result, which ends the delivery, and it
can refuse to be closed once all results are delivered. What it took before stays with it.
-/

namespace DocumentDb

/-! ## Results -/

/-- Decodes what a cursor delivers, up to the first error. -/
def decodeCursor {α : Type} (c : Converter α) : Cursor → List (Except Error α)
  | [] => []
  | .error e :: _ => [.error e]
  | .ok d :: rest =>
    match c.ofDocument d with
    | .ok a => .ok a :: decodeCursor c rest
    | .error e => [.error e]

/-! ## Sinks -/

/-- A receiver of values of type `α` with states of type `τ`. -/
structure Sink (α τ : Type) where
  /-- Takes a value, or says why not. -/
  accept : τ → α → Except String τ
  /-- Ends the delivery, or says why not. -/
  close : τ → Except String Unit

namespace Sink

variable {α τ : Type}

/-- The error for a refusal of a sink. -/
def refusal (reason : String) : Error :=
  .unknown ("result sink failed: " ++ reason)

/-- Delivers results to a sink, of which `count` are delivered already, and gives their number and
the state of the sink. -/
def deliver (sink : Sink α τ) (count : Nat) (t : τ) :
    List (Except Error α) → Except Error Nat × τ
  | [] =>
    match sink.close t with
    | .ok () => (.ok count, t)
    | .error reason => (.error (refusal reason), t)
  | .error e :: _ => (.error e, t)
  | .ok a :: rest =>
    match sink.accept t a with
    | .ok t => sink.deliver (count + 1) t rest
    | .error reason => (.error (refusal reason), t)

/-- A sink that keeps what it takes in order, with room for some values if a number is given, and
that refuses to be closed if the flag is set. -/
def bucket (room : Option Nat) (stuck : Bool) : Sink α (List α) where
  accept kept a :=
    if room.any (kept.length ≥ ·) then .error "bucket full" else .ok (kept ++ [a])
  close _ := if stuck then .error "close refused" else .ok ()

end Sink

/-! ## Aggregations -/

/-- A pipeline over a collection, with the converter for its results. -/
structure Aggregation (σ α : Type) where
  collection : String
  backend : Backend σ
  converter : Converter α
  pipeline : Pipeline := .empty

namespace Aggregation

variable {σ α τ : Type}

/-- The same aggregation with another pipeline. -/
def withPipeline (a : Aggregation σ α) (p : Pipeline) : Aggregation σ α :=
  { a with pipeline := p }

/-- The same aggregation with results of another type. -/
def withConverter {β : Type} (a : Aggregation σ α) (c : Converter β) : Aggregation σ β :=
  ⟨a.collection, a.backend, c, a.pipeline⟩

/-- The same aggregation with results that are decoded as their type says. -/
def withType (β : Type) [Encode β] [Decode β] (a : Aggregation σ α) : Aggregation σ β :=
  a.withConverter (.derived β)

/-- The text with which a database shell runs the aggregation. -/
def toQuery (a : Aggregation σ α) (s : Spacing) : Except Error String :=
  a.pipeline.toQuery a.collection s

/-- Runs the pipeline and gives the results up to the first error. -/
def stream (a : Aggregation σ α) : Action σ (List (Except Error α)) := do
  return decodeCursor a.converter (← a.backend.aggregate a.collection a.pipeline)

/-- Runs the pipeline and gives all results, or the first error. -/
def toList (a : Aggregation σ α) : Action σ (List α) := do
  MonadExcept.ofExcept (collect (← a.stream))

/-- Runs the pipeline and delivers the results to a sink. -/
def deliverTo (a : Aggregation σ α) (sink : Sink α τ) (t : τ) : σ → (Except Error Nat × τ) × σ :=
  fun s =>
    match a.stream s with
    | (.ok results, s) => (sink.deliver 0 t results, s)
    | (.error e, s) => ((.error e, t), s)

end Aggregation

end DocumentDb
