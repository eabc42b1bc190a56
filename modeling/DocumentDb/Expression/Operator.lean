import DocumentDb.Expression.Arithmetic
import DocumentDb.Fault
import DocumentDb.Text.Casing

/-!
# Operators

What each operator makes of its arguments. A result is a value, or nothing where there is none,
as for an element beyond the end of an array. An argument that is missing has become null before.
-/

namespace DocumentDb

namespace Operator

/-- The single argument of an operator that takes one. -/
def single (name : String) : List Value → Except Error Value
  | [v] => .ok v
  | args => .error (DatabaseFault.arity name 1 args.length).error

/-- The two arguments of an operator that takes two. -/
def pair (name : String) : List Value → Except Error (Value × Value)
  | [v, w] => .ok (v, w)
  | args => .error (DatabaseFault.arity name 2 args.length).error

/-- The length of an array. -/
def size : Value → Except Error Value
  | .array items => .ok (.ofCount items.length)
  | v => .error (DatabaseFault.sizeOfNonArray v).error

/-- The item at a place that is counted from the front, or from the back if it is negative. -/
def itemAt (items : List Value) (index : Int) : Option Value :=
  let place := if index < 0 then items.length + index else index
  if place < 0 then none else items[place.toNat]?

/-- An element of an array; of null, null. -/
def elementAt (v w : Value) : Except Error (Option Value) :=
  match v, w.asInteger? with
  | .null, _ => .ok (some .null)
  | .array items, some index => .ok (itemAt items index)
  | _, _ => .error DatabaseFault.elementOfNonArray.error

/-- The entries of a document as documents of key and value; of null, null. -/
def entries : Value → Except Error Value
  | .null => .ok .null
  | .document es =>
    .ok (.array (es.map fun e => .document [("k", .string e.1), ("v", e.2)]))
  | _ => .error DatabaseFault.entriesOfNonDocument.error

/-- Calculates with numbers. A null among them makes the result null. -/
def calculate (name : String) (fold : List Value → Value) (args : List Value) :
    Except Error Value :=
  if args.any Value.isNull then .ok .null
  else
    match args.find? (! Value.isNumber ·) with
    | some bad => .error (OperandFault.numberExpected name bad).error
    | none => .ok (fold args)

/-- Appends strings to what is there already, up to the first null, which makes the result
null. -/
def concat (joined : String) : List Value → Except Error Value
  | [] => .ok (.string joined)
  | .null :: _ => .ok .null
  | .string s :: vs => concat (joined ++ s) vs
  | v :: _ => .error (OperandFault.stringExpected v).error

/-- The text whose letters an operator on letter case changes. -/
def caseText : Value → String
  | .null => ""
  | .string s => s
  | v => v.display

/-- The first argument that stands for a value, or else the last argument. -/
def ifNull (args : List Value) : Option Value :=
  (args.find? (! Value.isNothing ·)).or args.getLast?

/-- Applies an operator to its arguments. -/
def apply (name : String) (args : List Value) : Except Error (Option Value) :=
  if name = "$size" then do
    return some (← size (← single name args))
  else if name = "$arrayElemAt" then do
    let (v, w) ← pair name args
    elementAt v w
  else if name = "$objectToArray" then do
    return some (← entries (← single name args))
  else if name = "$add" then do
    return some (← calculate name Value.sum args)
  else if name = "$multiply" then do
    return some (← calculate name Value.product args)
  else if name = "$concat" then do
    return some (← concat "" args)
  else if name = "$toUpper" then do
    return some (.string (Text.toUpper (caseText (← single name args))))
  else if name = "$toLower" then do
    return some (.string (Text.toLower (caseText (← single name args))))
  else if name = "$ifNull" then .ok (ifNull args)
  else if name = "$eq" then do
    let (v, w) ← pair name args
    return some (.bool (v.alike w))
  else .error (OperandFault.unknownOperator name).error

end Operator

end DocumentDb
