import DocumentDb.Filter.Match
import DocumentDb.Pipeline.Group
import DocumentDb.Pipeline.Shape
import DocumentDb.Pipeline.Sort

/-!
# Running pipelines

Each stage turns a list of documents into another one, and a pipeline runs its stages one after
the other. A stage that fails ends the run.

**Chance.** A sample shuffles the documents and takes the first ones. The shuffle is a parameter:
any rearrangement of a list will do.
-/

namespace DocumentDb

/-- A rearrangement of the items of any list. -/
structure Shuffle where
  apply : List Document → List Document
  perm : ∀ docs, (apply docs).Perm docs

/-- The rearrangement that leaves everything in place. -/
def Shuffle.still : Shuffle :=
  ⟨id, fun _ => .refl _⟩

instance : Inhabited Shuffle := ⟨.still⟩

/-- The number of some documents, as one document; no document if there are none. -/
def countDocuments (field : String) (docs : List Document) : List Document :=
  if docs.isEmpty then [] else [Document.single field (.ofCount docs.length)]

/-- Runs one stage. -/
def Stage.run (shuffle : Shuffle) (docs : List Document) : Stage → Except Error (List Document)
  | filter f => f.select docs
  | project fs => docs.mapM (DocumentDb.project fs)
  | group id accumulators => DocumentDb.group id accumulators docs
  | sort keys => .ok (sortByKeys keys docs)
  | skip n => .ok (docs.drop n)
  | limit n => .ok (docs.take n)
  | addFields fs => docs.mapM (DocumentDb.addFields fs)
  | sample size => .ok ((shuffle.apply docs).take size)
  | unwind path => .ok (docs.flatMap (DocumentDb.unwind path))
  | count field => .ok (countDocuments field docs)

/-- Runs the stages of a pipeline one after the other. -/
def Pipeline.run (shuffle : Shuffle) (p : Pipeline) (docs : List Document) :
    Except Error (List Document) :=
  p.stages.foldlM (fun docs s => s.run shuffle docs) docs

end DocumentDb
