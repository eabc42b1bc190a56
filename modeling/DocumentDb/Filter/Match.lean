import DocumentDb.Filter.Render
import DocumentDb.Value.Order
import DocumentDb.Value.Path

/-!
# Matching documents against filters

`Filter.holds` decides whether a document is meant by a filter.

**Arrays.** A field that is an array equals an operand if an item of it does, and stands in an
order relation to it if an item does. An array operand is also compared with the whole array.
**Missing fields** equal null and stand in no order relation. **Order** relates values of one
bracket only.

A conjunction is decided from the left and stops at the first filter that fails, a disjunction at
the first one that holds; what is wrong with later ones then does not show.
-/

namespace DocumentDb

namespace Value

/-- Whether a field equals an operand. -/
def matchesEq (field : Option Value) (operand : Value) : Bool :=
  match field with
  | none => operand.isNull
  | some (array items) =>
    (operand.items?.isSome && (array items).alike operand) || items.any (·.alike operand)
  | some v => v.alike operand

/-- Whether two values of one bracket compare as asked. -/
def ordered (accept : Ordering → Bool) (operand v : Value) : Bool :=
  v.sameBracket operand && accept (v.order operand)

/-- Whether a field, or an item of it, compares with an operand as asked. -/
def matchesOrder (accept : Ordering → Bool) (field : Option Value) (operand : Value) : Bool :=
  match field with
  | none => false
  | some (array items) => items.any (ordered accept operand)
  | some v => ordered accept operand v

/-- Whether a field is an array of the given length. -/
def hasLength (field : Option Value) (n : Nat) : Bool :=
  match field with
  | some (array items) => items.length == n
  | _ => false

end Value

namespace Filter

/-- Whether a field equals one of the items of an array operand. -/
def matchesAny (field : String) (op : Comparison) (v : Option Value) (operand : Value) :
    Except Error Bool :=
  match operand with
  | .array items => .ok (items.any (Value.matchesEq v))
  | other => .error (OperandFault.arrayExpected op.operator field other.display).error

/-- Decides one comparison, given the value of the field. -/
def comparisonHolds (field : String) (op : Comparison) (v : Option Value) (operand : Value) :
    Except Error Bool :=
  match op with
  | .eq => .ok (Value.matchesEq v operand)
  | .ne => .ok (!Value.matchesEq v operand)
  | .gt => .ok (Value.matchesOrder Ordering.isGT v operand)
  | .gte => .ok (Value.matchesOrder Ordering.isGE v operand)
  | .lt => .ok (Value.matchesOrder Ordering.isLT v operand)
  | .lte => .ok (Value.matchesOrder Ordering.isLE v operand)
  | .isIn => matchesAny field op v operand
  | .notIn => return !(← matchesAny field op v operand)
  | .size =>
    match operand.length? with
    | some n => .ok (Value.hasLength v n)
    | none => .error (OperandFault.lengthExpected field operand).error

end Filter

mutual

/-- Decides whether a filter means a document. -/
def Filter.holds (d : Document) : Filter → Except Error Bool
  | .all fs => do
    Filter.requireOperands "$and" fs
    allHold d fs
  | .any fs => do
    Filter.requireOperands "$or" fs
    anyHolds d fs
  | .not f => return !(← f.holds d)
  | .present field expected => .ok ((d.lookup field).isSome == expected)
  | .compare field op operand => Filter.comparisonHolds field op (d.lookup field) operand
  | .invalid reason => .error (.invalidOperand reason)

/-- Decides whether all of some filters mean a document, from the left. -/
def allHold (d : Document) : List Filter → Except Error Bool
  | [] => .ok true
  | f :: fs => do
    if ← f.holds d then allHold d fs else return false

/-- Decides whether one of some filters means a document, from the left. -/
def anyHolds (d : Document) : List Filter → Except Error Bool
  | [] => .ok false
  | f :: fs => do
    if ← f.holds d then return true else anyHolds d fs

end

/-- The documents that a filter means, in their order. The first document that cannot be decided
fails the whole selection. -/
def Filter.select (f : Filter) : List Document → Except Error (List Document)
  | [] => .ok []
  | d :: ds => do
    let keep ← f.holds d
    let rest ← f.select ds
    return if keep then d :: rest else rest

/-- The documents that an optional filter means; all of them if there is none. -/
def selectWhere (filter : Option Filter) (docs : List Document) : Except Error (List Document) :=
  match filter with
  | some f => f.select docs
  | none => .ok docs

end DocumentDb
