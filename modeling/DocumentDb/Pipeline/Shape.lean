import DocumentDb.Expression.Evaluate
import DocumentDb.Fault
import DocumentDb.Fragment

/-!
# Reshaping documents

The three stages that change documents one by one.

**Projection.** If all fragments drop fields, the document keeps everything else. Otherwise the
projection keeps and computes the named fields only, with the identifier in front unless that is
dropped; then nothing but the identifier can be dropped.

**Added fields** are computed one after the other, each on the document as it is by then.

**Unwinding** makes one document of each item of an array, with the item in its place. A document
without the field disappears, and one whose field is no array passes unchanged.
-/

namespace DocumentDb

/-! ## Projection -/

/-- Removes the fields that the fragments name. -/
def dropFields (fs : List Fragment) (d : Document) : Document :=
  fs.foldl (fun d f => d.removePath f.name) d

/-- Puts the fields that the fragments keep or compute, in their order. -/
def keepFields (source : Document) (into : Document) : List Fragment → Except Error Document
  | [] => .ok into
  | f :: fs => do
    let v ← match f.value with
      | .kept => .ok (source.lookup f.name)
      | .dropped => .ok none
      | .computed e => e.evaluate source
    match v with
    | some v => keepFields source (into.setPath f.name v) fs
    | none => keepFields source into fs

/-- The identifier of a document as the first entry of its projection. -/
def projectedId (fs : List Fragment) (d : Document) : Document :=
  if fs.any (fun f => f.name == idKey && f.value.isDropped) then []
  else
    match d.get? idKey with
    | some v => Document.single idKey v
    | none => []

/-- The projection of a document. -/
def project (fs : List Fragment) (d : Document) : Except Error Document :=
  if fs.all (·.value.isDropped) then .ok (dropFields fs d)
  else
    match fs.find? (fun f => f.name != idKey && f.value.isDropped) with
    | some f => .error (DatabaseFault.mixedProjection f.name).error
    | none => keepFields d (projectedId fs d) fs

/-! ## Added fields -/

/-- Adds computed fields to a document. -/
def addFields : List Fragment → Document → Except Error Document
  | [], d => .ok d
  | f :: fs, d =>
    match f.value with
    | .computed e => do
      match ← e.evaluate d with
      | some v => addFields fs (d.setPath f.name v)
      | none => addFields fs d
    | _ => .error (OperandFault.notComputed f.name "$addFields").error

/-! ## Unwinding -/

/-- The documents that unwinding makes of one. -/
def unwind (path : String) (d : Document) : List Document :=
  match d.lookup path with
  | none | some .null => []
  | some (.array items) => items.map (d.setPath path)
  | some _ => [d]

end DocumentDb
