import DocumentDb.Error
import DocumentDb.Filter
import DocumentDb.Fragment
import DocumentDb.Text.Quoted

/-!
# Pipelines

A pipeline is a list of stages that documents pass through one after the other. Adding a stage
gives a new pipeline and leaves the old one as it was, so that pipelines can branch.

**Adding with care.** The named methods merge the fragments of a stage and refuse a negative
`skip` or `limit`; `push` adds a stage as it is.
-/

namespace DocumentDb

/-- A field to sort by and the direction. -/
inductive SortKey where
  | ascending (field : String)
  | descending (field : String)
deriving DecidableEq

namespace SortKey

def field : SortKey → String
  | ascending f | descending f => f

/-- The number that stands for the direction in a sort document. -/
def direction : SortKey → Int32
  | ascending _ => 1
  | descending _ => -1

end SortKey

/-- One step of a pipeline. -/
inductive Stage where
  /-- Keeps the documents that a filter means. -/
  | filter (f : Filter)
  /-- Reshapes each document. -/
  | project (fragments : List Fragment)
  /-- Makes one document of each group. -/
  | group (id : Expression) (accumulators : List Fragment)
  | sort (keys : List SortKey)
  | skip (n : Nat)
  | limit (n : Nat)
  /-- Adds computed fields to each document. -/
  | addFields (fragments : List Fragment)
  /-- Picks some documents at random. -/
  | sample (size : Nat)
  /-- Makes one document of each item of an array field. -/
  | unwind (field : String)
  /-- Makes one document that holds the number of documents. -/
  | count (field : String)
deriving Inhabited

/-- Whether two lists agree item by item. -/
def sameBy {α : Type} (same : α → α → Bool) : List α → List α → Bool
  | [], [] => true
  | x :: xs, y :: ys => same x y && sameBy same xs ys
  | _, _ => false

namespace Stage

/-- The name of a stage in a stage document. -/
def operator : Stage → String
  | filter _ => "$match"
  | project _ => "$project"
  | group .. => "$group"
  | sort _ => "$sort"
  | skip _ => "$skip"
  | limit _ => "$limit"
  | addFields _ => "$addFields"
  | sample _ => "$sample"
  | unwind _ => "$unwind"
  | count _ => "$count"

/-- Whether two stages are built alike. -/
def same : Stage → Stage → Bool
  | filter f, filter g => f.same g
  | project fs, project gs => sameBy Fragment.same fs gs
  | group e fs, group e' gs => e.same e' && sameBy Fragment.same fs gs
  | sort ks, sort ls => ks == ls
  | skip m, skip n => m == n
  | limit m, limit n => m == n
  | addFields fs, addFields gs => sameBy Fragment.same fs gs
  | sample m, sample n => m == n
  | unwind f, unwind g => f == g
  | count f, count g => f == g
  | _, _ => false

end Stage

/-- Stages in the order in which documents pass through them. -/
structure Pipeline where
  stages : List Stage
deriving Inhabited

namespace Pipeline

/-- The pipeline without stages. -/
def empty : Pipeline := ⟨[]⟩

/-- Adds a stage as it is. -/
def push (p : Pipeline) (s : Stage) : Pipeline :=
  ⟨p.stages ++ [s]⟩

/-- The pipeline of some stages. -/
def ofStages (ss : List Stage) : Pipeline :=
  ss.foldl push empty

def length (p : Pipeline) : Nat :=
  p.stages.length

def isEmpty (p : Pipeline) : Bool :=
  p.stages.isEmpty

/-- Whether two pipelines are built alike. -/
def same (p q : Pipeline) : Bool :=
  sameBy Stage.same p.stages q.stages

/-- A number of documents, which must not be negative. -/
def nonNegative (stage : String) (n : Int) : Except Error Nat :=
  if n < 0 then
    .error (.invalidArgument (stage ++ " must not be negative, got " ++ toString n))
  else .ok n.toNat

def filter (p : Pipeline) (f : Filter) : Pipeline :=
  p.push (.filter f)

def project (p : Pipeline) (fs : List Fragment) : Pipeline :=
  p.push (.project (mergeFragments fs))

def group (p : Pipeline) (id : Expression) (accumulators : List Fragment) : Pipeline :=
  p.push (.group id (mergeFragments accumulators))

def sort (p : Pipeline) (keys : List SortKey) : Pipeline :=
  p.push (.sort keys)

def skip (p : Pipeline) (n : Int) : Except Error Pipeline := do
  return p.push (.skip (← nonNegative "skip" n))

def limit (p : Pipeline) (n : Int) : Except Error Pipeline := do
  return p.push (.limit (← nonNegative "limit" n))

def addFields (p : Pipeline) (fs : List Fragment) : Pipeline :=
  p.push (.addFields (mergeFragments fs))

def sample (p : Pipeline) (size : Nat) : Pipeline :=
  p.push (.sample size)

def unwind (p : Pipeline) (field : String) : Pipeline :=
  p.push (.unwind field)

def count (p : Pipeline) (field : String) : Pipeline :=
  p.push (.count field)

end Pipeline

/-! ## Outlines -/

/-- The outline of a stage that has no inner structure. -/
def Stage.outline? : Stage → Option String
  | .skip n => some ("Skip(" ++ toString n ++ ")")
  | .limit n => some ("Limit(" ++ toString n ++ ")")
  | .sample n => some ("Sample(" ++ toString n ++ ")")
  | .unwind f => some ("Unwind(" ++ Text.plainQuoted f ++ ")")
  | .count f => some ("Count(" ++ Text.plainQuoted f ++ ")")
  | _ => none

/-- The outline of a pipeline all of whose stages have one. -/
def Pipeline.outline? (p : Pipeline) : Option String := do
  let parts ← p.stages.mapM Stage.outline?
  return "[" ++ String.intercalate ", " parts ++ "]"

end DocumentDb
