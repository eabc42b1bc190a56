/-!
# Decimal numerals

Rows of the digits `0` to `9`, with a sign where a signed number is meant. A numeral is read only
if nothing else stands in the text and its value lies in the range asked for.
-/

namespace DocumentDb.Text

/-- The value of a decimal digit. -/
def digitValue? (c : Char) : Option Nat :=
  if '0' ≤ c ∧ c ≤ '9' then some (c.toNat - '0'.toNat) else none

/-- The number that a row of digits stands for; none if there is no digit or something else. -/
def digitsValue? (cs : List Char) : Option Nat :=
  if cs.isEmpty then none
  else cs.foldlM (fun n c => (digitValue? c).map (10 * n + ·)) 0

/-- A leading sign and the rest; true stands for a minus. -/
def splitSign : List Char → Bool × List Char
  | '-' :: cs => (true, cs)
  | '+' :: cs => (false, cs)
  | cs => (false, cs)

/-- Reads an integer from `low` to `high`, with an optional sign. -/
def intOfText? (low high : Int) (s : String) : Option Int :=
  let (negative, digits) := splitSign s.toList
  match digitsValue? digits with
  | some n =>
    let n : Int := if negative then -n else n
    if low ≤ n ∧ n ≤ high then some n else none
  | none => none

/-- Reads a natural number, which may have a plus sign in front. -/
def natOfText? (s : String) : Option Nat :=
  match s.toList with
  | '+' :: cs => digitsValue? cs
  | cs => digitsValue? cs

end DocumentDb.Text
