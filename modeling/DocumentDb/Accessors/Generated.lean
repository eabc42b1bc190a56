import DocumentDb.Accessors.WireName
import DocumentDb.Text.Words

/-!
# Generated accessors

For a record type, a module with one typed accessor for each stored field, and the list of the names
under which the fields are stored. Only records with named fields and without parameters have one.
-/

namespace DocumentDb.Accessors

/-- A function that gives a typed field. -/
structure Accessor where
  function : String
  type : String
  wireName : String
deriving DecidableEq

/-- The accessors of a type. -/
structure AccessorModule where
  name : String
  accessors : List Accessor
deriving DecidableEq

/-- The names under which the fields are stored, in the order of declaration. -/
def AccessorModule.fields (m : AccessorModule) : List String :=
  m.accessors.map Accessor.wireName

/-- The text of a type without spaces. -/
def withoutSpaces (s : String) : String :=
  String.ofList (s.toList.filter (!·.isWhitespace))

/-- The accessor of a field; none if the field is left out. -/
def FieldDeclaration.accessor? (rule : Option RenamingRule) (f : FieldDeclaration) :
    Except DeclarationFault (Option Accessor) := do
  let w ← f.wireName rule
  return if w.skipped then none else some ⟨f.name, withoutSpaces f.type, w.name⟩

/-- The accessors of some fields. -/
def accessorsOf (rule : Option RenamingRule) :
    List FieldDeclaration → Except DeclarationFault (List Accessor)
  | [] => .ok []
  | f :: fs => do
    let a ← f.accessor? rule
    return a.toList ++ (← accessorsOf rule fs)

/-- The accessors of a declared type. -/
def Declaration.generate (d : Declaration) : Except DeclarationFault AccessorModule := do
  if d.isGeneric then throw .generic
  match d.kind with
  | .record =>
    let rule ← renamingRule d.attributes
    return ⟨Text.snakeCase d.name, ← accessorsOf rule d.fields⟩
  | .tuple | .unit => .error .unnamedFields
  | .enumeration | .union => .error .noRecord

end DocumentDb.Accessors
