import DocumentDb.Value

/-!
# The order of values

`Value.order` compares any two values. Kinds are gathered in brackets that follow one another in
a fixed order; within a bracket values are compared by content.

**Numbers** of the two integer widths and doubles are compared as doubles, in the line of all
patterns, an integer being rounded to the nearest double first. **Arrays** are compared item by
item and **documents** entry by entry, key before value; a shorter one that agrees as far as it
goes comes first. **Text and bytes** are compared unit by unit. Two values of one bracket that
have no common measure, such as a decimal and an integer, are not told apart.
-/

namespace DocumentDb

namespace Value

/-- The place of a value's kind among the kinds. -/
def bracket : Value → Nat
  | minKey => 0
  | null | undefined => 1
  | int32 _ | int64 _ | double _ | decimal _ => 2
  | string _ | symbol _ => 3
  | document _ => 4
  | array _ => 5
  | binary .. => 6
  | objectId _ => 7
  | bool _ => 8
  | dateTime _ => 9
  | timestamp .. => 10
  | regex .. => 11
  | code _ | codeWithScope .. => 12
  | maxKey => 255

def sameBracket (v w : Value) : Bool :=
  v.bracket == w.bracket

/-- The number that a value is, as a double; decimals have none. -/
def asDouble? : Value → Option Binary64
  | int32 n => some (Binary64.ofInt n.toInt)
  | int64 n => some (Binary64.ofInt n.toInt)
  | double x => some x
  | _ => none

/-- Whether a value is a number that can be calculated with. -/
def isNumber (v : Value) : Bool :=
  v.asDouble?.isSome

/-- Compares two rows of bytes, byte by byte. -/
def orderBytes : List UInt8 → List UInt8 → Ordering
  | [], [] => .eq
  | [], _ :: _ => .lt
  | _ :: _, [] => .gt
  | a :: as, b :: bs => (compare a.toNat b.toNat).then (orderBytes as bs)

/-- Compares two scalars of one bracket; those without a common measure are not told apart. -/
def orderScalars : Value → Value → Ordering
  | string s, string t => compare s t
  | symbol s, symbol t => compare s t
  | bool a, bool b => compare a.toNat b.toNat
  | dateTime m, dateTime n => compare m.toInt n.toInt
  | objectId xs, objectId ys => orderBytes xs ys
  | timestamp s i, timestamp t j => (compare s.toNat t.toNat).then (compare i.toNat j.toNat)
  | binary _ xs, binary _ ys => orderBytes xs ys
  | v, w =>
    match v.asDouble?, w.asDouble? with
    | some x, some y => x.totalCompare y
    | _, _ => .eq

end Value

mutual

/-- Compares two values. -/
def Value.order : Value → Value → Ordering
  | .array xs, .array ys => orderItems xs ys
  | .document es, .document fs => orderEntries es fs
  | v, w => (compare v.bracket w.bracket).then (v.orderScalars w)

/-- Compares two lists item by item. -/
def orderItems : List Value → List Value → Ordering
  | [], [] => .eq
  | [], _ :: _ => .lt
  | _ :: _, [] => .gt
  | x :: xs, y :: ys => (x.order y).then (orderItems xs ys)

/-- Compares two lists entry by entry, each by its key and then by its value. -/
def orderEntries : List (String × Value) → List (String × Value) → Ordering
  | [], [] => .eq
  | [], _ :: _ => .lt
  | _ :: _, [] => .gt
  | (k, v) :: es, (l, w) :: fs =>
    (compare k l).then ((v.order w).then (orderEntries es fs))

end

/-- Whether the order does not tell two values apart. -/
def Value.alike (v w : Value) : Bool :=
  v.order w == .eq

end DocumentDb
