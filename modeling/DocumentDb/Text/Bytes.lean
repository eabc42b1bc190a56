/-!
# Bytes as text

Bytes are written as pairs of hexadecimal digits, or three at a time as four characters of the
base 64 alphabet, with `=` in the places that a short last group leaves empty.
-/

namespace DocumentDb.Text

/-! ## Hexadecimal -/

/-- The lower-case hexadecimal digit of a number below sixteen. -/
def hexDigit (n : Nat) : Char :=
  if n < 10 then Char.ofNat ('0'.toNat + n) else Char.ofNat ('a'.toNat + (n - 10))

/-- The value of a hexadecimal digit of either case. -/
def hexValue? (c : Char) : Option Nat :=
  if '0' ≤ c ∧ c ≤ '9' then some (c.toNat - '0'.toNat)
  else if 'a' ≤ c ∧ c ≤ 'f' then some (c.toNat - 'a'.toNat + 10)
  else if 'A' ≤ c ∧ c ≤ 'F' then some (c.toNat - 'A'.toNat + 10)
  else none

/-- The two digits of a byte. -/
def hexOfByte (b : UInt8) : List Char :=
  [hexDigit (b.toNat / 16), hexDigit (b.toNat % 16)]

/-- The digits of some bytes. -/
def hexOfBytes (bytes : List UInt8) : String :=
  String.ofList (bytes.flatMap hexOfByte)

/-- The digits of a number, without zeros in front. -/
def hexOfNat (n : Nat) : String :=
  String.ofList (Nat.toDigits 16 n)

/-- The bytes that pairs of digits stand for. -/
def bytesOfHexDigits? : List Char → Option (List UInt8)
  | [] => some []
  | [_] => none
  | a :: b :: rest => do
    let high ← hexValue? a
    let low ← hexValue? b
    let bytes ← bytesOfHexDigits? rest
    return UInt8.ofNat (16 * high + low) :: bytes

/-- Reads bytes from their digits. -/
def bytesOfHex? (s : String) : Option (List UInt8) :=
  bytesOfHexDigits? s.toList

/-! ## Base 64 -/

/-- The character of a number below 64. -/
def base64Digit (n : Nat) : Char :=
  if n < 26 then Char.ofNat ('A'.toNat + n)
  else if n < 52 then Char.ofNat ('a'.toNat + (n - 26))
  else if n < 62 then Char.ofNat ('0'.toNat + (n - 52))
  else if n = 62 then '+'
  else '/'

/-- The characters of some bytes, in groups of four. -/
def base64Chars : List UInt8 → List Char
  | [] => []
  | [a] =>
    let n := a.toNat <<< 16
    [base64Digit (n >>> 18), base64Digit ((n >>> 12) % 64), '=', '=']
  | [a, b] =>
    let n := (a.toNat <<< 16) + (b.toNat <<< 8)
    [base64Digit (n >>> 18), base64Digit ((n >>> 12) % 64), base64Digit ((n >>> 6) % 64), '=']
  | a :: b :: c :: rest =>
    let n := (a.toNat <<< 16) + (b.toNat <<< 8) + c.toNat
    base64Digit (n >>> 18) :: base64Digit ((n >>> 12) % 64) :: base64Digit ((n >>> 6) % 64)
      :: base64Digit (n % 64) :: base64Chars rest

/-- The base 64 form of some bytes. -/
def base64OfBytes (bytes : List UInt8) : String :=
  String.ofList (base64Chars bytes)

end DocumentDb.Text
