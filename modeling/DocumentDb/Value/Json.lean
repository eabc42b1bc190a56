import DocumentDb.Binary64.Text
import DocumentDb.Text.Quoted
import DocumentDb.Value

/-!
# Values as JSON

The JSON form of a value. Kinds that JSON lacks are objects with one telling key, the infinities
and NaN are `null`, and bytes without a subtype are an array of numbers.

**Spacing.** The two forms differ only in what follows a comma and a colon: nothing in the compact
form, one space in the spaced one.
-/

namespace DocumentDb

/-- What follows the commas and colons of a JSON text. -/
inductive Spacing where
  | compact
  | spaced
deriving DecidableEq

namespace Spacing

/-- What stands between two items or entries. -/
def comma : Spacing → String
  | compact => ","
  | spaced => ", "

/-- What stands between a key and its value. -/
def colon : Spacing → String
  | compact => ":"
  | spaced => ": "

/-- An array of parts. -/
def bracketed (s : Spacing) (parts : List String) : String :=
  "[" ++ String.intercalate s.comma parts ++ "]"

/-- An entry with its key. -/
def entry (s : Spacing) (key value : String) : String :=
  Text.jsonQuoted key ++ s.colon ++ value

/-- An object of entries. -/
def braced (s : Spacing) (parts : List String) : String :=
  "\x7b" ++ String.intercalate s.comma parts ++ "\x7d"

/-- An object with one entry. -/
def tagged (s : Spacing) (key value : String) : String :=
  s.braced [s.entry key value]

end Spacing

/-- A double in JSON. -/
def Binary64.json (x : Binary64) : String :=
  if x.isFinite then x.text .json else "null"

mutual

/-- The JSON form of a value. -/
def Value.json (s : Spacing) : Value → String
  | .null => "null"
  | .undefined => s.tagged "$undefined" "true"
  | .minKey => s.tagged "$minKey" "1"
  | .maxKey => s.tagged "$maxKey" "1"
  | .bool b => if b then "true" else "false"
  | .int32 n => toString n.toInt
  | .int64 n => toString n.toInt
  | .double x => x.json
  | .decimal text => s.tagged "$numberDecimal" (Text.jsonQuoted text)
  | .string t => Text.jsonQuoted t
  | .symbol t => s.tagged "$symbol" (Text.jsonQuoted t)
  | .array items => s.bracketed (jsonItems s items)
  | .document es => s.braced (jsonEntries s es)
  | .binary subtype bytes =>
    if subtype = 0 then s.bracketed (bytes.map fun b => toString b.toNat)
    else
      s.tagged "$binary" <| s.braced
        [s.entry "base64" (Text.jsonQuoted (Text.base64OfBytes bytes)),
          s.entry "subType" (Text.jsonQuoted (Text.hexOfBytes [subtype]))]
  | .objectId bytes => s.tagged "$oid" (Text.jsonQuoted (Text.hexOfBytes bytes))
  | .dateTime millis =>
    s.tagged "$date" (s.tagged "$numberLong" (Text.jsonQuoted (toString millis.toInt)))
  | .timestamp time increment =>
    s.tagged "$timestamp" <| s.braced
      [s.entry "t" (toString time.toNat), s.entry "i" (toString increment.toNat)]
  | .regex pattern options =>
    s.tagged "$regularExpression" <| s.braced
      [s.entry "pattern" (Text.jsonQuoted pattern), s.entry "options" (Text.jsonQuoted options)]
  | .code source => s.tagged "$code" (Text.jsonQuoted source)
  | .codeWithScope source scope =>
    s.braced
      [s.entry "$code" (Text.jsonQuoted source),
        s.entry "$scope" (s.braced (jsonEntries s scope))]

/-- The JSON forms of the items of an array. -/
def jsonItems (s : Spacing) : List Value → List String
  | [] => []
  | v :: vs => v.json s :: jsonItems s vs

/-- The JSON forms of the entries of a document. -/
def jsonEntries (s : Spacing) : List (String × Value) → List String
  | [] => []
  | (k, v) :: es => s.entry k (v.json s) :: jsonEntries s es

end

/-- The JSON form of a document. -/
def Document.json (s : Spacing) (d : Document) : String :=
  (Value.document d).json s

end DocumentDb
