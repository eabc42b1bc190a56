/-!
# Binary floating point numbers

A `Binary64` is a 64-bit pattern, read as a sign, an exponent and a fraction. Its value is a
significand times a power of two, and every operation here is done exactly on those and then
rounded once.

**Rounding** (`roundRatio`). A ratio goes to the nearest representable number, and a ratio in
the middle of two goes to the one with an even significand. A ratio that is too large becomes an
infinity.

**Order** (`rank`). All patterns are ordered in one line: negative ones before positive ones, and
patterns of one sign by the size of the rest. So `-0.0` comes before `0.0`, and the two kinds of
NaN stand at the two ends.

**Equality** (`numericEq`). As numbers, the two zeros are equal and a NaN is not equal to itself.
-/

namespace DocumentDb

/-- A binary floating point number in its 64-bit interchange form. -/
structure Binary64 where
  bits : UInt64
deriving DecidableEq, Inhabited

namespace Binary64

/-! ## The parts of a pattern -/

/-- Whether the sign bit is set. -/
def negative (x : Binary64) : Bool :=
  decide (Nat.pow 2 63 ≤ x.bits.toNat)

/-- The pattern without its sign bit. -/
def magnitude (x : Binary64) : Nat :=
  x.bits.toNat % Nat.pow 2 63

/-- The exponent field. -/
def exponent (x : Binary64) : Nat :=
  x.magnitude / Nat.pow 2 52

/-- The fraction field. -/
def fraction (x : Binary64) : Nat :=
  x.magnitude % Nat.pow 2 52

/-- The exponent field that infinities and NaNs have. -/
def topExponent : Nat := 2047

def isNaN (x : Binary64) : Bool :=
  x.exponent == topExponent && x.fraction != 0

def isInfinite (x : Binary64) : Bool :=
  x.exponent == topExponent && x.fraction == 0

def isFinite (x : Binary64) : Bool :=
  x.exponent != topExponent

def isZero (x : Binary64) : Bool :=
  x.magnitude == 0

/-- The integer part of the value: a finite number is its significand times two to the power
`scale`. -/
def significand (x : Binary64) : Nat :=
  if x.exponent = 0 then x.fraction else Nat.pow 2 52 + x.fraction

/-- The power of two by which the significand is multiplied. -/
def scale (x : Binary64) : Int :=
  (max x.exponent 1 : Nat) - 1075

/-- The number with the given sign and the given remaining bits. -/
def ofMagnitude (negative : Bool) (magnitude : Nat) : Binary64 :=
  ⟨UInt64.ofNat ((if negative then Nat.pow 2 63 else 0) + magnitude)⟩

def zero (negative : Bool) : Binary64 :=
  ofMagnitude negative 0

def infinity (negative : Bool) : Binary64 :=
  ofMagnitude negative (topExponent * Nat.pow 2 52)

def nan (negative : Bool) : Binary64 :=
  ofMagnitude negative (topExponent * Nat.pow 2 52 + Nat.pow 2 51)

/-! ## Order and equality -/

/-- The place of a pattern in the line of all patterns. -/
def rank (x : Binary64) : Int :=
  if x.negative then -(x.magnitude : Int) - 1 else x.magnitude

/-- Compares two patterns by their places. -/
def totalCompare (x y : Binary64) : Ordering :=
  compare x.rank y.rank

/-- Equality as numbers: the zeros are equal, and a NaN equals nothing. -/
def numericEq (x y : Binary64) : Bool :=
  !x.isNaN && !y.isNaN && (x == y || x.isZero && y.isZero)

/-! ## Rounding -/

/-- The ratio `num / den` divided by two to the power `e`, as a quotient and a remainder over
the divisor that is returned last. -/
def scaledRatio (num den : Nat) (e : Int) : Nat × Nat × Nat :=
  let n := if e < 0 then num * Nat.pow 2 (-e).toNat else num
  let d := if e < 0 then den else den * Nat.pow 2 e.toNat
  (n / d, n % d, d)

/-- The power of two at which `num / den` has a significand of 53 binary digits, or the least
one there is. -/
def roundingScale (num den : Nat) : Int :=
  let e : Int := (Nat.log2 num : Int) - Nat.log2 den - 52
  let e := if (scaledRatio num den e).1 < Nat.pow 2 52 then e - 1 else e
  max e (-1074)

/-- The number nearest to `num / den` with the given sign; a middle goes to the even
significand. -/
def roundRatio (negative : Bool) (num den : Nat) : Binary64 :=
  if num = 0 then zero negative
  else
    let e := roundingScale num den
    let (q, r, d) := scaledRatio num den e
    let up := decide (d < 2 * r) || 2 * r == d && q % 2 == 1
    let magnitude := (e + 1074).toNat * Nat.pow 2 52 + q + (if up then 1 else 0)
    if topExponent * Nat.pow 2 52 ≤ magnitude then infinity negative
    else ofMagnitude negative magnitude

/-- The number nearest to `m` times two to the power `e`. -/
def roundScaled (negative : Bool) (m : Nat) (e : Int) : Binary64 :=
  if e < 0 then roundRatio negative m (Nat.pow 2 (-e).toNat)
  else roundRatio negative (m * Nat.pow 2 e.toNat) 1

/-- The number nearest to an integer. -/
def ofInt (n : Int) : Binary64 :=
  roundRatio (decide (n < 0)) n.natAbs 1

/-- The integer that a number is, if it is one. -/
def toInt? (x : Binary64) : Option Int :=
  if x.isFinite then
    let m :=
      if x.scale < 0 then
        let d := Nat.pow 2 (-x.scale).toNat
        if x.significand % d = 0 then some (x.significand / d) else none
      else some (x.significand * Nat.pow 2 x.scale.toNat)
    m.map fun m => if x.negative then -(m : Int) else m
  else none

/-! ## Arithmetic

An operation on a NaN gives the first NaN among its operands, and an operation that has no
value gives the NaN with the sign set. -/

/-- The significand with the sign of the number. -/
def signedSignificand (x : Binary64) : Int :=
  if x.negative then -(x.significand : Int) else x.significand

/-- The first of two operands that is a NaN, or else what the operation gives. -/
def propagateNaN (x y : Binary64) (result : Binary64) : Binary64 :=
  if x.isNaN then x else if y.isNaN then y else result

/-- The sum of two finite numbers. Opposite numbers add up to the positive zero. -/
def addFinite (x y : Binary64) : Binary64 :=
  let e := min x.scale y.scale
  let sum := x.signedSignificand * Nat.pow 2 (x.scale - e).toNat
    + y.signedSignificand * Nat.pow 2 (y.scale - e).toNat
  if sum = 0 then zero (x.negative && y.negative)
  else roundScaled (decide (sum < 0)) sum.natAbs e

def add (x y : Binary64) : Binary64 :=
  propagateNaN x y <|
    if x.isInfinite then
      if y.isInfinite && x.negative != y.negative then nan true else x
    else if y.isInfinite then y
    else addFinite x y

def mul (x y : Binary64) : Binary64 :=
  let negative := x.negative != y.negative
  propagateNaN x y <|
    if x.isInfinite || y.isInfinite then
      if x.isZero || y.isZero then nan true else infinity negative
    else roundScaled negative (x.significand * y.significand) (x.scale + y.scale)

def div (x y : Binary64) : Binary64 :=
  let negative := x.negative != y.negative
  propagateNaN x y <|
    if x.isInfinite then
      if y.isInfinite then nan true else infinity negative
    else if y.isInfinite then zero negative
    else if y.isZero then
      if x.isZero then nan true else infinity negative
    else
      let e := x.scale - y.scale
      if e < 0 then roundRatio negative x.significand (y.significand * Nat.pow 2 (-e).toNat)
      else roundRatio negative (x.significand * Nat.pow 2 e.toNat) y.significand

end Binary64

end DocumentDb
