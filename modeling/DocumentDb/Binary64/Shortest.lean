import DocumentDb.Binary64

/-!
# The shortest decimal of a binary number

`shortest x` is the decimal with the fewest digits among those that round to `x`, and of these the
nearest to `x`; where two are equally near, a `Tie` says which. It is found on decimal grids of one,
two, and up to seventeen digits: on each grid only the two neighbours of `x` can be the nearest one,
and the first grid on which one of them rounds to `x` is taken.

**What rounds to `x`.** The numbers between the middles of `x` and its neighbours. The middles
belong to `x` when its significand is even. Below a power of two the neighbour is half as far
away, except at the smallest exponent.
-/

namespace DocumentDb

/-- Which of two decimals counts when a number lies in the middle between them. -/
inductive Tie where
  /-- The one with an even last digit. -/
  | even
  /-- The one further from zero. -/
  | away
deriving DecidableEq

/-- The decimal number `0.d₁d₂…` times ten to the power `point`; `digits` is the integer
`d₁d₂…`. -/
structure Decimal where
  digits : Nat
  point : Int
deriving DecidableEq, Inhabited

namespace Decimal

/-- The digits of a number in base ten, without zeros at the end. -/
def digitText (d : Decimal) : String :=
  let cs := Nat.toDigits 10 d.digits
  String.ofList (cs.reverse.dropWhile (· == '0')).reverse

/-- How many decimal digits a number has. -/
def digitCount (n : Nat) : Nat :=
  (Nat.toDigits 10 n).length

/-- The power of ten just above the positive ratio `num / den`: the least `k` with
`num / den < 10 ^ k`. -/
def magnitudeOf (num den : Nat) : Int :=
  if den ≤ num then digitCount (num / den)
  else
    let j := digitCount den - digitCount num
    if den ≤ num * Nat.pow 10 j then 1 - j else -j

end Decimal

namespace Binary64

/-- The numbers that round to a binary number, as multiples of `1 / den`: the number itself, the
middles to its neighbours, and whether the middles belong to it. -/
structure Cell where
  value : Nat
  low : Nat
  high : Nat
  den : Nat
  closed : Bool

/-- The cell of a finite number other than zero. -/
def cell (x : Binary64) : Cell :=
  let below := if x.fraction = 0 ∧ 1 < x.exponent then 1 else 2
  let e := x.scale - 2
  let unit := if e < 0 then 1 else Nat.pow 2 e.toNat
  { value := 4 * x.significand * unit
    low := (4 * x.significand - below) * unit
    high := (4 * x.significand + 2) * unit
    den := if e < 0 then Nat.pow 2 (-e).toNat else 1
    closed := x.significand % 2 == 0 }

/-- Whether `n / den` lies in the cell. -/
def Cell.holds (c : Cell) (n : Nat) : Bool :=
  if c.closed then decide (c.low ≤ n ∧ n ≤ c.high) else decide (c.low < n ∧ n < c.high)

/-- The cell with all its numbers multiplied by ten to the power `k`. -/
def Cell.shift (c : Cell) (k : Int) : Cell :=
  if k < 0 then { c with den := c.den * Nat.pow 10 (-k).toNat }
  else
    let p := Nat.pow 10 k.toNat
    { c with value := c.value * p, low := c.low * p, high := c.high * p }

/-- Whether the lower one of the two integers around a value counts, given the integer and twice the
rest above it. -/
def goesDown (tie : Tie) (q twice den : Nat) : Bool :=
  match compare twice den with
  | .lt => true
  | .eq => tie == .even && q % 2 == 0
  | .gt => false

/-- The integer nearest to the value of the cell that lies in the cell, if one does. -/
def Cell.nearestInteger? (tie : Tie) (c : Cell) : Option Nat :=
  let q := c.value / c.den
  match c.holds (q * c.den), c.holds ((q + 1) * c.den) with
  | true, true =>
    some (if goesDown tie q (2 * (c.value % c.den)) c.den then q else q + 1)
  | true, false => some q
  | false, true => some (q + 1)
  | false, false => none

/-- The decimal with `count` digits that is nearest to a number, if it rounds to the number. -/
def decimalOfLength? (tie : Tie) (c : Cell) (point : Int) (count : Nat) : Option Decimal :=
  ((c.shift (count - point)).nearestInteger? tie).map fun d =>
    ⟨d, Decimal.digitCount d + (point - count)⟩

/-- The shortest decimal that rounds to a finite number other than zero. -/
def shortest (tie : Tie) (x : Binary64) : Decimal :=
  let c := x.cell
  let point := Decimal.magnitudeOf c.value c.den
  ((List.range 17).findSome? fun i => decimalOfLength? tie c point (i + 1)).getD
    ⟨(c.shift (17 - point)).value / (c.shift (17 - point)).den, point⟩

end Binary64

end DocumentDb
