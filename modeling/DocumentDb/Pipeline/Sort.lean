import DocumentDb.Pipeline
import DocumentDb.Value.Order
import DocumentDb.Value.Path

/-!
# Sorting documents

Documents are compared by their values at the sort keys, the first key counting most and a
missing value being null. The sort is an insertion sort: each document moves in front of the
later ones that it comes before, so documents that no key tells apart keep their order.
-/

namespace DocumentDb

/-- Compares two documents by one key. -/
def SortKey.order (k : SortKey) (d e : Document) : Ordering :=
  let v := d.lookupOrNull k.field
  let w := e.lookupOrNull k.field
  match k with
  | .ascending _ => v.order w
  | .descending _ => w.order v

/-- Compares two documents by some keys, the first counting most. -/
def orderBy : List SortKey → Document → Document → Ordering
  | [], _, _ => .eq
  | k :: ks, d, e => (k.order d e).then (orderBy ks d e)

/-- Puts a document into a list held from the last to the first, in front of the documents that it
comes before. -/
def insertByKeys (keys : List SortKey) (d : Document) : List Document → List Document
  | [] => [d]
  | e :: es => if orderBy keys d e = .lt then e :: insertByKeys keys d es else d :: e :: es

/-- The documents in the order of the keys. -/
def sortByKeys (keys : List SortKey) (docs : List Document) : List Document :=
  (docs.foldl (fun sorted d => insertByKeys keys d sorted) []).reverse

end DocumentDb
