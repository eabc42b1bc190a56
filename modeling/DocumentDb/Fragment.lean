import DocumentDb.Expression

/-!
# Fragments

A fragment is one named entry of a stage that shapes documents: the field is kept, dropped, or
computed from an expression.

**Merging** (`mergeFragments`). Of several fragments for one name the last one counts, in the
place of the first.
-/

namespace DocumentDb

/-- What a stage does with a field. -/
inductive FragmentValue where
  | kept
  | dropped
  | computed (e : Expression)
deriving Inhabited

/-- One field of a stage. -/
structure Fragment where
  name : String
  value : FragmentValue
deriving Inhabited

namespace FragmentValue

/-- Whether a field is dropped. -/
def isDropped : FragmentValue → Bool
  | dropped => true
  | _ => false

/-- Whether two fragments do the same. -/
def same : FragmentValue → FragmentValue → Bool
  | kept, kept => true
  | dropped, dropped => true
  | computed e, computed f => e.same f
  | _, _ => false

end FragmentValue

namespace Fragment

/-- A field that is computed. -/
def compute (name : String) (e : Expression) : Fragment :=
  ⟨name, .computed e⟩

/-- A group value that counts the documents of the group. -/
def count (name : String) : Fragment :=
  compute name (.operator "$sum" (.literal (.int32 1)))

/-- The reason for which the expression of a fragment could not be encoded. -/
def invalidReason? (f : Fragment) : Option String :=
  match f.value with
  | .computed e => e.invalidReason?
  | _ => none

/-- Whether two fragments do the same with the same field. -/
def same (f g : Fragment) : Bool :=
  f.name == g.name && f.value.same g.value

end Fragment

/-- Puts a fragment among others: in the place of the one with its name, or last. -/
def placeFragment : List Fragment → Fragment → List Fragment
  | [], f => [f]
  | g :: gs, f => if g.name = f.name then ⟨g.name, f.value⟩ :: gs else g :: placeFragment gs f

/-- One fragment for each name: the last one given, in the place of the first. -/
def mergeFragments (fs : List Fragment) : List Fragment :=
  fs.foldl placeFragment []

end DocumentDb
