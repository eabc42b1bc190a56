import DocumentDb.Binary64.Text
import DocumentDb.Text.Bytes
import DocumentDb.Value

/-!
# Values in messages

The short form of a value that messages show. Strings stand between quotation marks as they are,
numbers in decimal digits without an exponent, arrays in brackets and documents in braces.
-/

namespace DocumentDb

/-- Texts with a comma and a space between them. -/
def commaSeparated (parts : List String) : String :=
  String.intercalate ", " parts

mutual

/-- The form of a value in messages. -/
def Value.display : Value → String
  | .null => "null"
  | .undefined => "undefined"
  | .minKey => "MinKey"
  | .maxKey => "MaxKey"
  | .bool b => if b then "true" else "false"
  | .int32 n => toString n.toInt
  | .int64 n => toString n.toInt
  | .double x => x.text .plain
  | .decimal text => text
  | .string s => "\"" ++ s ++ "\""
  | .symbol s => "Symbol(\"" ++ s ++ "\")"
  | .array items => "[" ++ commaSeparated (displayItems items) ++ "]"
  | .document [] => "\x7b\x7d"
  | .document es => "\x7b " ++ commaSeparated (displayEntries es) ++ " \x7d"
  | .binary subtype bytes =>
    "Binary(0x" ++ Text.hexOfNat subtype.toNat ++ ", " ++ Text.base64OfBytes bytes ++ ")"
  | .objectId bytes => "ObjectId(\"" ++ Text.hexOfBytes bytes ++ "\")"
  | .dateTime millis => "DateTime(" ++ toString millis.toInt ++ ")"
  | .timestamp time increment =>
    "Timestamp(" ++ toString time.toNat ++ ", " ++ toString increment.toNat ++ ")"
  | .regex pattern options => "/" ++ pattern ++ "/" ++ options
  | .code source => source
  | .codeWithScope source _ => source

/-- The forms of the items of an array. -/
def displayItems : List Value → List String
  | [] => []
  | v :: vs => v.display :: displayItems vs

/-- The forms of the entries of a document. -/
def displayEntries : List (String × Value) → List String
  | [] => []
  | (k, v) :: es => ("\"" ++ k ++ "\": " ++ v.display) :: displayEntries es

end

end DocumentDb
