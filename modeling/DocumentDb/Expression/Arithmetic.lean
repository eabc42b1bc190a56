import DocumentDb.Value.Order

/-!
# Arithmetic on values

Sums and products keep the narrowest kind that holds the exact result: two short integers give a
short one, then a long one, and long ones give a double only when the result leaves the long
range. A double among the operands makes the result a double.
-/

namespace DocumentDb

namespace Value

/-- The integer of a value of either width. -/
def integer? : Value → Option Int
  | int32 n => some n.toInt
  | int64 n => some n.toInt
  | _ => none

/-- The integer that a number is, if it is one: an integer of either width or a double without a
fraction. -/
def asInteger? : Value → Option Int
  | double x => x.toInt?
  | v => v.integer?

def fitsInt32 (n : Int) : Bool :=
  decide (Int32.minValue.toInt ≤ n ∧ n ≤ Int32.maxValue.toInt)

def fitsInt64 (n : Int) : Bool :=
  decide (Int64.minValue.toInt ≤ n ∧ n ≤ Int64.maxValue.toInt)

/-- Combines two numbers, exactly on integers as far as the long range goes and else on doubles.
Values that are no numbers give null. -/
def combine (exact : Int → Int → Int) (rounded : Binary64 → Binary64 → Binary64) (v w : Value) :
    Value :=
  match v, w with
  | int32 m, int32 n =>
    let r := exact m.toInt n.toInt
    if fitsInt32 r then int32 (Int32.ofInt r) else int64 (Int64.ofInt r)
  | v, w =>
    match v.integer?, w.integer? with
    | some m, some n =>
      let r := exact m n
      if fitsInt64 r then int64 (Int64.ofInt r)
      else double (rounded (Binary64.ofInt m) (Binary64.ofInt n))
    | _, _ =>
      match v.asDouble?, w.asDouble? with
      | some x, some y => double (rounded x y)
      | _, _ => null

/-- The sum of two numbers. -/
def add : Value → Value → Value :=
  combine (· + ·) Binary64.add

/-- The product of two numbers. -/
def mul : Value → Value → Value :=
  combine (· * ·) Binary64.mul

/-- The sum of some numbers, from the left. -/
def sum (vs : List Value) : Value :=
  vs.foldl add (int32 0)

/-- The product of some numbers, from the left. -/
def product (vs : List Value) : Value :=
  vs.foldl mul (int32 1)

end Value

end DocumentDb
