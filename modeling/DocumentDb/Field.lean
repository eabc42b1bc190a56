import DocumentDb.Codec.Encode
import DocumentDb.Pipeline

/-!
# Typed fields

A `Field α` names a place in documents that holds values of type `α`. Its methods build filters,
fragments and sort keys, and take only operands of that type. Operands are encoded as records
are; one that cannot be encoded leaves its mark in what is built.
-/

namespace DocumentDb

/-- The constant expression of a value, or the mark of one that cannot be encoded. -/
def Expression.ofValue {α : Type} [Encode α] (a : α) : Expression :=
  match encode a with
  | .ok v => .literal v
  | .error e => .invalid e.message

/-- A place in documents that holds values of type `α`. -/
@[ext]
structure Field (α : Type) where
  name : String

namespace Field

variable {α : Type}

instance : DecidableEq (Field α) :=
  fun f g => decidable_of_iff (f.name = g.name) Field.ext_iff.symm

/-- The field `child` of the documents in this field. -/
def nested (β : Type) (f : Field α) (child : String) : Field β :=
  ⟨f.name ++ "." ++ child⟩

/-- The same place with values of another type. -/
def retype (β : Type) (f : Field α) : Field β :=
  ⟨f.name⟩

/-- The value of the field. -/
def path (f : Field α) : Expression :=
  .path f.name

/-! ## Filters -/

/-- The field is there, or is not there. -/
def exist (f : Field α) (expected : Bool) : Filter :=
  .present f.name expected

/-- The field compares with a value of any type that can be encoded. -/
def compareWith {β : Type} [Encode β] (f : Field α) (op : Comparison) (b : β) : Filter :=
  match encode b with
  | .ok v => .compare f.name op v
  | .error e => .invalid (f.name ++ ": " ++ e.message)

section Comparisons

variable [Encode α]

def eq (f : Field α) (a : α) : Filter :=
  f.compareWith .eq a

def ne (f : Field α) (a : α) : Filter :=
  f.compareWith .ne a

def gt (f : Field α) (a : α) : Filter :=
  f.compareWith .gt a

def gte (f : Field α) (a : α) : Filter :=
  f.compareWith .gte a

def lt (f : Field α) (a : α) : Filter :=
  f.compareWith .lt a

def lte (f : Field α) (a : α) : Filter :=
  f.compareWith .lte a

/-- The field is one of some values. -/
def isIn (f : Field α) (as : List α) : Filter :=
  f.compareWith .isIn as

/-- The field is none of some values. -/
def notIn (f : Field α) (as : List α) : Filter :=
  f.compareWith .notIn as

end Comparisons

/-- The field is an array of `n` items. -/
def size (f : Field (List α)) (n : UInt32) : Filter :=
  .compare f.name .size (.int64 (Int64.ofNat n.toNat))

/-- The field is an array with the given item. -/
def contains [Encode α] (f : Field (List α)) (a : α) : Filter :=
  f.compareWith .eq a

/-! ## Fragments -/

/-- Keeps the field in a projection. -/
def keep (f : Field α) : Fragment :=
  ⟨f.name, .kept⟩

/-- Drops the field in a projection. -/
def drop (f : Field α) : Fragment :=
  ⟨f.name, .dropped⟩

/-- Computes the field. -/
def set (f : Field α) (e : Expression) : Fragment :=
  .compute f.name e

/-- Applies an operator to the field and puts the result under `target`. -/
def applyInto (f : Field α) (operator target : String) : Fragment :=
  .compute target (.operator operator f.path)

/-- Gathers the distinct values of the field. -/
def addToSet (f : Field α) (target : String) : Fragment :=
  f.applyInto "$addToSet" target

/-- Gathers all values of the field. -/
def pushInto (f : Field α) (target : String) : Fragment :=
  f.applyInto "$push" target

def sumInto (f : Field α) (target : String) : Fragment :=
  f.applyInto "$sum" target

def averageInto (f : Field α) (target : String) : Fragment :=
  f.applyInto "$avg" target

def leastInto (f : Field α) (target : String) : Fragment :=
  f.applyInto "$min" target

def greatestInto (f : Field α) (target : String) : Fragment :=
  f.applyInto "$max" target

def firstInto (f : Field α) (target : String) : Fragment :=
  f.applyInto "$first" target

def lastInto (f : Field α) (target : String) : Fragment :=
  f.applyInto "$last" target

/-- Turns the document in the field into an array of its entries. -/
def entriesInto (f : Field α) (target : String) : Fragment :=
  f.applyInto "$objectToArray" target

/-- Puts the length of the array in the field under `target`. -/
def sizeInto (f : Field (List α)) (target : String) : Fragment :=
  f.applyInto "$size" target

/-- Computes the field as the item of an array field at a place, counted from the back if it is
negative. -/
def elementAt (f : Field α) (source : Field (List α)) (index : Int64) : Fragment :=
  .compute f.name (.operator "$arrayElemAt" (.array [source.path, .literal (.int64 index)]))

/-! ## Sort keys -/

def ascending (f : Field α) : SortKey :=
  .ascending f.name

def descending (f : Field α) : SortKey :=
  .descending f.name

end Field

end DocumentDb
