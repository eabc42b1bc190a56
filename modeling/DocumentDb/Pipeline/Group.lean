import DocumentDb.Expression.Arithmetic
import DocumentDb.Expression.Evaluate
import DocumentDb.Pipeline.Render

/-!
# Grouping documents

Documents fall into groups by the value of the group key, and each group becomes one document:
its key, and for each accumulator what it has gathered over the documents of the group.

**Groups** stand in the order in which their keys first came. A document joins the first group
whose key the order of values does not tell apart from its own; a missing key is null.

**Accumulators** see the values of their argument in the order of the documents. Sums and averages
pass over what is no number, and the least and greatest value over what stands for no value.
-/

namespace DocumentDb

/-! ## Accumulators -/

/-- What an accumulator has gathered so far. -/
inductive Accumulator where
  | sum (total : Value)
  | average (total : Binary64) (count : Nat)
  | least (v : Option Value)
  | greatest (v : Option Value)
  | first (v : Option Value)
  | last (v : Value)
  | push (items : List Value)
  | addToSet (items : List Value)
deriving Inhabited

namespace Accumulator

/-- The accumulator of an operator, before the first document. -/
def start (operator : String) : Except Error Accumulator :=
  if operator = "$sum" then .ok (sum (.int32 0))
  else if operator = "$avg" then .ok (average (Binary64.zero false) 0)
  else if operator = "$min" then .ok (least none)
  else if operator = "$max" then .ok (greatest none)
  else if operator = "$first" then .ok (first none)
  else if operator = "$last" then .ok (last .null)
  else if operator = "$push" then .ok (push [])
  else if operator = "$addToSet" then .ok (addToSet [])
  else .error (DatabaseFault.unknownAccumulator operator).error

/-- The value that counts when a new one comes: the new one if it compares with the old one as
asked, or if there is no old one. What stands for no value never counts. -/
def extreme (wanted : Ordering) (old : Option Value) (new : Option Value) : Option Value :=
  match new with
  | none => old
  | some v =>
    if v.isNothing then old
    else
      match old with
      | none => some v
      | some w => if v.order w = wanted then some v else some w

/-- Takes the value of one more document, or that it is missing. -/
def step (a : Accumulator) (v : Option Value) : Accumulator :=
  match a with
  | sum total =>
    match v with
    | some v => if v.isNumber then sum (total.add v) else sum total
    | none => sum total
  | average total count =>
    match v.bind Value.asDouble? with
    | some x => average (total.add x) (count + 1)
    | none => average total count
  | least w => least (extreme .lt w v)
  | greatest w => greatest (extreme .gt w v)
  | first (some w) => first (some w)
  | first none => first (some (v.getD .null))
  | last _ => last (v.getD .null)
  | push items => push (items ++ v.toList)
  | addToSet items =>
    match v with
    | some v => if items.any (·.alike v) then addToSet items else addToSet (items ++ [v])
    | none => addToSet items

/-- What has been gathered in the end. -/
def finish : Accumulator → Value
  | sum total => total
  | average total count =>
    if count = 0 then .null else .double (total.div (Binary64.ofInt count))
  | least v | greatest v | first v => v.getD .null
  | last v => v
  | push items | addToSet items => .array items

end Accumulator

/-! ## Groups -/

/-- A field of a group: its name, the operator that gathers it, and the argument. -/
structure GroupField where
  name : String
  operator : String
  argument : Expression

/-- The fields that some fragments ask of a group. -/
def groupFields : List Fragment → Except Error (List GroupField)
  | [] => .ok []
  | f :: fs =>
    match f.value with
    | .computed (.operator operator argument) => do
      return ⟨f.name, operator, argument⟩ :: (← groupFields fs)
    | .computed _ => .error (DatabaseFault.notAnAccumulator f.name).error
    | _ => .error (OperandFault.notComputed f.name "$group").error

/-- A group: its key and what its fields have gathered. -/
structure Group where
  key : Value
  states : List Accumulator

namespace Group

/-- Takes one more document of the group. -/
def take (fields : List GroupField) (d : Document) (g : Group) : Except Error Group := do
  let values ← fields.mapM fun f => f.argument.evaluate d
  return { g with states := List.zipWith Accumulator.step g.states values }

/-- The document of a group. -/
def document (fields : List GroupField) (g : Group) : Document :=
  (List.zip fields g.states).foldl (fun d p => d.insert p.1.name p.2.finish)
    (Document.single idKey g.key)

end Group

/-- Takes a document with the given key into the first group whose key is alike, or into a new
last one. -/
def takeInto (fields : List GroupField) (key : Value) (d : Document) :
    List Group → Except Error (List Group)
  | [] => do
    let states ← fields.mapM fun f => Accumulator.start f.operator
    return [← Group.take fields d ⟨key, states⟩]
  | g :: gs => do
    if g.key.alike key then return (← g.take fields d) :: gs
    else return g :: (← takeInto fields key d gs)

/-- The groups of some documents. -/
def groupsOf (id : Expression) (fields : List GroupField) (docs : List Document) :
    Except Error (List Group) :=
  docs.foldlM (fun groups d => do takeInto fields (← id.evaluateOrNull d) d groups) []

/-- One document for each group. -/
def group (id : Expression) (accumulators : List Fragment) (docs : List Document) :
    Except Error (List Document) := do
  requireGroupNames accumulators
  let fields ← groupFields accumulators
  return (← groupsOf id fields docs).map (Group.document fields)

end DocumentDb
