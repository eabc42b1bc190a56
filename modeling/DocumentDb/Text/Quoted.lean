import DocumentDb.Text.Bytes
import DocumentDb.Text.Invisible

/-!
# Quoted text

Two ways to write a text between quotation marks. The JSON form escapes the quotation mark, the
backslash and the control characters below the space, and leaves everything else as it is. The
form for diagnostics escapes also every character without a shape of its own, by its code point.
-/

namespace DocumentDb.Text

/-- A character inside a JSON string. -/
def jsonEscape (c : Char) : List Char :=
  if c = '"' then ['\\', '"']
  else if c = '\\' then ['\\', '\\']
  else if c = '\x08' then ['\\', 'b']
  else if c = '\x0c' then ['\\', 'f']
  else if c = '\n' then ['\\', 'n']
  else if c = '\r' then ['\\', 'r']
  else if c = '\t' then ['\\', 't']
  else if c.toNat < 0x20 then
    ['\\', 'u', '0', '0', hexDigit (c.toNat / 16), hexDigit (c.toNat % 16)]
  else [c]

/-- The characters of a JSON string with its quotation marks. -/
def jsonChars (s : String) : List Char :=
  '"' :: s.toList.flatMap jsonEscape ++ ['"']

/-- A text as a JSON string. -/
def jsonQuoted (s : String) : String :=
  String.ofList (jsonChars s)

/-- A character inside a text quoted for diagnostics. -/
def plainEscape (c : Char) : List Char :=
  if c = '"' then ['\\', '"']
  else if c = '\\' then ['\\', '\\']
  else if c = '\n' then ['\\', 'n']
  else if c = '\r' then ['\\', 'r']
  else if c = '\t' then ['\\', 't']
  else if c.toNat = 0 then ['\\', '0']
  else if isInvisible c then
    ['\\', 'u', '\x7b'] ++ (hexOfNat c.toNat).toList ++ ['\x7d']
  else [c]

/-- A text quoted for diagnostics. -/
def plainQuoted (s : String) : String :=
  String.ofList ('"' :: s.toList.flatMap plainEscape ++ ['"'])

end DocumentDb.Text
