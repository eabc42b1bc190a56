import DocumentDb.Binary64.Text
import DocumentDb.Text.Bytes
import DocumentDb.Value

/-!
# Extended documents

Kinds of values that JSON lacks are often written as documents with telling keys. When a value is
encoded, such a document, at any depth, becomes the value that it denotes. One whose content does
not fit its key, or that has other keys, stays a document.

When a value is decoded it is the other way round: one of a kind that JSON lacks is presented as
the document that denotes it, to a reader that wants a record or a map.
-/

namespace DocumentDb

namespace Value

/-- Reads an identifier of twelve bytes. -/
def objectIdOfText? (s : String) : Option Value := do
  let bytes ← Text.bytesOfHex? s
  if bytes.length = 12 then some (objectId bytes) else none

/-- The value that a single entry denotes. -/
def ofExtendedEntry? (key : String) (v : Value) : Option Value :=
  match v with
  | string s =>
    if key = "$oid" then objectIdOfText? s
    else if key = "$numberInt" then
      (Text.intOfText? Int32.minValue.toInt Int32.maxValue.toInt s).map fun n =>
        int32 (Int32.ofInt n)
    else if key = "$numberLong" then
      (Text.intOfText? Int64.minValue.toInt Int64.maxValue.toInt s).map fun n =>
        int64 (Int64.ofInt n)
    else if key = "$numberDouble" then (Binary64.ofText? s).map double
    else if key = "$symbol" then some (symbol s)
    else if key = "$code" then some (code s)
    else none
  | int32 n =>
    if n = 1 ∧ key = "$minKey" then some minKey
    else if n = 1 ∧ key = "$maxKey" then some maxKey
    else none
  | int64 n =>
    if n = 1 ∧ key = "$minKey" then some minKey
    else if n = 1 ∧ key = "$maxKey" then some maxKey
    else none
  | bool b => if b ∧ key = "$undefined" then some undefined else none
  | _ => none

/-- The value that a document with telling keys denotes. -/
def ofExtended? : Document → Option Value
  | [(key, v)] => ofExtendedEntry? key v
  | [("$code", string source), ("$scope", document scope)] => some (codeWithScope source scope)
  | [("$scope", document scope), ("$code", string source)] => some (codeWithScope source scope)
  | _ => none

/-- The value that a document denotes, or the document itself. -/
def ofEntries (d : Document) : Value :=
  (ofExtended? d).getD (document d)

/-- The document that denotes a value of a kind that JSON lacks. -/
def presented? : Value → Option Document
  | undefined => some (Document.single "$undefined" (bool true))
  | minKey => some (Document.single "$minKey" (int32 1))
  | maxKey => some (Document.single "$maxKey" (int32 1))
  | decimal text => some (Document.single "$numberDecimal" (string text))
  | symbol s => some (Document.single "$symbol" (string s))
  | code source => some (Document.single "$code" (string source))
  | codeWithScope source scope =>
    some [("$code", string source), ("$scope", document scope)]
  | objectId bytes => some (Document.single "$oid" (string (Text.hexOfBytes bytes)))
  | dateTime millis =>
    some (Document.single "$date"
      (document (Document.single "$numberLong" (string (toString millis.toInt)))))
  | timestamp time increment =>
    some (Document.single "$timestamp"
      (document [("t", ofCount time.toNat), ("i", ofCount increment.toNat)]))
  | regex pattern options =>
    some (Document.single "$regularExpression"
      (document [("pattern", string pattern), ("options", string options)]))
  | binary subtype bytes =>
    some (Document.single "$binary"
      (document [("base64", string (Text.base64OfBytes bytes)),
        ("subType", string (Text.hexOfBytes [subtype]))]))
  | _ => none

/-- The entries of a document, or of the one by which a value is presented. -/
def entries? : Value → Option Document
  | document es => some es
  | v => v.presented?

end Value

mutual

/-- A value with every extended document in it replaced by what it denotes. -/
def Value.denote : Value → Value
  | .array items => .array (denoteItems items)
  | .document es => .ofEntries (denoteEntries es)
  | .codeWithScope source scope =>
    .ofEntries [("$code", .string source), ("$scope", .ofEntries (denoteEntries scope))]
  | v => v

/-- The items of an array, each replaced by what it denotes. -/
def denoteItems : List Value → List Value
  | [] => []
  | v :: vs => v.denote :: denoteItems vs

/-- The entries of a document, each value replaced by what it denotes. -/
def denoteEntries : List (String × Value) → List (String × Value)
  | [] => []
  | (k, v) :: es => (k, v.denote) :: denoteEntries es

end

end DocumentDb
