import DocumentDb.Value

/-!
# Sameness of values

Two values are the same if they have the same kind and the same content. The entries of a
document may stand in any order, at every depth; the items of an array may not. Doubles are
compared as numbers, so a NaN is not the same as itself and the two zeros are the same.

This is the relation by which a replacement counts as a change and by which pipelines are
compared. The relation that queries use is another one: it identifies numbers across kinds and
minds the order of entries.
-/

namespace DocumentDb

mutual

/-- Whether two values are the same. -/
def Value.same : Value → Value → Bool
  | .null, .null => true
  | .undefined, .undefined => true
  | .minKey, .minKey => true
  | .maxKey, .maxKey => true
  | .bool a, .bool b => a == b
  | .int32 m, .int32 n => m == n
  | .int64 m, .int64 n => m == n
  | .double x, .double y => x.numericEq y
  | .decimal s, .decimal t => s == t
  | .string s, .string t => s == t
  | .symbol s, .symbol t => s == t
  | .array xs, .array ys => sameItems xs ys
  | .document es, .document fs => es.length == fs.length && sameEntries es fs
  | .binary k xs, .binary l ys => k == l && xs == ys
  | .objectId xs, .objectId ys => xs == ys
  | .dateTime m, .dateTime n => m == n
  | .timestamp s i, .timestamp t j => s == t && i == j
  | .regex p o, .regex q r => p == q && o == r
  | .code s, .code t => s == t
  | .codeWithScope s es, .codeWithScope t fs =>
    s == t && es.length == fs.length && sameEntries es fs
  | _, _ => false

/-- Whether two lists have the same items in the same places. -/
def sameItems : List Value → List Value → Bool
  | [], [] => true
  | x :: xs, y :: ys => x.same y && sameItems xs ys
  | _, _ => false

/-- Whether every entry of the first list has a partner in the second one. -/
def sameEntries : List (String × Value) → List (String × Value) → Bool
  | [], _ => true
  | (k, v) :: es, fs =>
    (match Assoc.get? fs k with
      | some w => v.same w
      | none => false) && sameEntries es fs

end

/-- Whether two documents are the same. -/
def Document.same (d e : Document) : Bool :=
  (Value.document d).same (.document e)

end DocumentDb
