import DocumentDb.Binary64.Shortest
import DocumentDb.Text.Numeral

/-!
# Binary numbers as text

A number is written with its shortest digits, and a `Layout` says where the point goes: in which
exponents the point stands among the digits, and whether a whole number shows a fraction. It also
says which digits are written when two decimals are equally near.

**Reading** (`ofText?`). A text of the usual decimal form, with an optional sign, point and
exponent, or the name of an infinity or of a NaN in any case, is read as the nearest number.
-/

namespace DocumentDb.Binary64

open Text

/-! ## Writing -/

/-- How the digits of a number are laid out. -/
structure Layout where
  /-- Whether a whole number is written with the fraction `.0`. -/
  fraction : Bool
  /-- The exponents, from the first up to but not including the second, at which the digits are
  written around a point; all exponents if there are no bounds. -/
  positional : Option (Int × Int)
  /-- Which of two equally near decimals is written. -/
  tie : Tie

/-- All digits around a point, and no fraction for a whole number. -/
def Layout.plain : Layout := ⟨false, none, .away⟩

/-- All digits around a point, and always a fraction. -/
def Layout.withFraction : Layout := ⟨true, none, .away⟩

/-- The layout of JSON numbers: a point up to sixteen digits before it and five zeros after it,
an exponent beyond. -/
def Layout.json : Layout := ⟨true, some (-5, 16), .even⟩

/-- A text of `n` zeros. -/
def zeros (n : Nat) : String :=
  String.ofList (List.replicate n '0')

/-- The digits around a point that stands after the first `point` of them. -/
def Layout.around (l : Layout) (digits : String) (point : Int) : String :=
  if point ≤ 0 then "0." ++ zeros (-point).toNat ++ digits
  else if (digits.length : Int) ≤ point then
    digits ++ zeros (point - digits.length).toNat ++ (if l.fraction then ".0" else "")
  else
    let cs := digits.toList
    String.ofList (cs.take point.toNat) ++ "." ++ String.ofList (cs.drop point.toNat)

/-- The digits with a point after the first one and an exponent. -/
def scientific (digits : String) (exponent : Int) : String :=
  let cs := digits.toList
  let fraction := if cs.length ≤ 1 then "" else "." ++ String.ofList (cs.drop 1)
  String.ofList (cs.take 1) ++ fraction ++ "e" ++ (if exponent < 0 then "-" else "+")
    ++ toString exponent.natAbs

/-- The text of a decimal. -/
def Layout.decimal (l : Layout) (d : Decimal) : String :=
  match l.positional with
  | some (first, last) =>
    if first ≤ d.point - 1 ∧ d.point - 1 < last then l.around d.digitText d.point
    else scientific d.digitText (d.point - 1)
  | none => l.around d.digitText d.point

/-- The text of a number. -/
def text (l : Layout) (x : Binary64) : String :=
  if x.isNaN then "NaN"
  else
    (if x.negative then "-" else "") ++
      if x.isInfinite then "inf"
      else if x.isZero then l.around "0" 1
      else l.decimal (x.shortest l.tie)

/-! ## Reading -/

/-- The characters up to the first one of which `p` holds, and what follows that one. -/
def splitAtFirst (p : Char → Bool) (cs : List Char) : List Char × Option (List Char) :=
  match cs.dropWhile (! p ·) with
  | [] => (cs, none)
  | _ :: rest => (cs.takeWhile (! p ·), some rest)

/-- The nearest number to `m` times ten to the power `e`. Powers that are far beyond all numbers
are not multiplied out. -/
def ofDecimal (negative : Bool) (m : Nat) (e : Int) : Binary64 :=
  if m = 0 then zero negative
  else if 400 < e then infinity negative
  else if e + Decimal.digitCount m < -400 then zero negative
  else if e < 0 then roundRatio negative m (Nat.pow 10 (-e).toNat)
  else roundRatio negative (m * Nat.pow 10 e.toNat) 1

/-- Reads an exponent, which is zero when it is left out. -/
def exponentOf? : Option (List Char) → Option Int
  | none => some 0
  | some cs =>
    let (negative, digits) := splitSign cs
    (digitsValue? digits).map fun n => if negative then -(n : Int) else n

/-- Reads an unsigned decimal. -/
def unsignedOfText? (negative : Bool) (cs : List Char) : Option Binary64 := do
  let (mantissa, exponent) := splitAtFirst (fun c => c == 'e' || c == 'E') cs
  let (whole, fraction) := splitAtFirst (· == '.') mantissa
  let fraction := fraction.getD []
  let m ← digitsValue? (whole ++ fraction)
  let e ← exponentOf? exponent
  some (ofDecimal negative m (e - fraction.length))

/-- The number that a text stands for. -/
def ofText? (s : String) : Option Binary64 :=
  let (negative, cs) := splitSign s.toList
  let name := String.ofList (cs.map Char.toLower)
  if name = "nan" then some (nan negative)
  else if name = "inf" ∨ name = "infinity" then some (infinity negative)
  else unsignedOfText? negative cs

end DocumentDb.Binary64
