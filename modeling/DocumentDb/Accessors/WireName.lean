import DocumentDb.Accessors.Declaration
import DocumentDb.Accessors.Renaming

/-!
# Names under which fields are stored

The attributes of a type and of a field are read item by item, in their order.

**The name** of a field is the last one that a `rename` item gives it. Without one it is the plain
name of the field, changed by the last rule that a `rename_all` item of the type gives.

**Fields left out** are those with a `skip` or `skip_serializing` item.

**Other items** change nothing. They may carry a value, and a list of items without lists of their
own; an item that carries more than it may is refused where the list should go on.
-/

namespace DocumentDb.Accessors

/-- Checks an item of no concern inside a list: it has no list of its own. -/
def passInner : Item → Except DeclarationFault Unit
  | .list .. => .error .commaExpected
  | _ => .ok ()

/-- Checks the items of a list, of which there must be one. -/
def passList (items : List Item) : Except DeclarationFault Unit :=
  if items.isEmpty then .error .itemExpected else items.forM passInner

/-- Checks an item of no concern. -/
def passItem : Item → Except DeclarationFault Unit
  | .list _ items => passList items
  | _ => .ok ()

/-- The text of an item that must carry one. -/
def requireText : Item → Except DeclarationFault String
  | .text _ value => .ok value
  | .expression _ => .error .textExpected
  | .bare _ | .list .. => .error .equalsExpected

/-! ## Types -/

/-- Reads one item of a type, given the rule so far. -/
def readRule (rule : Option RenamingRule) (item : Item) :
    Except DeclarationFault (Option RenamingRule) :=
  if item.path = "rename_all" then do
    let name ← requireText item
    match RenamingRule.ofName? name with
    | some r => return some r
    | none => .error (.unknownRule name)
  else do
    passItem item
    return rule

/-- The rule of a type for the names of its fields. -/
def renamingRule (as : List Attribute) : Except DeclarationFault (Option RenamingRule) :=
  ((storageAttributes as).flatMap Attribute.items).foldlM readRule none

/-! ## Fields -/

/-- The name of a field, and whether it is left out. -/
structure WireName where
  name : String
  skipped : Bool := false
deriving DecidableEq

/-- Reads the items of a list of names; the name for writing counts. -/
def readNames (name : String) (items : List Item) : Except DeclarationFault String :=
  if items.isEmpty then .error .itemExpected
  else
    items.foldlM (fun name item =>
      if item.path = "serialize" then requireText item
      else do
        passInner item
        return name) name

/-- Whether an item says that a field is left out. -/
def saysSkip (item : Item) : Bool :=
  item.path == "skip" || item.path == "skip_serializing"

/-- Reads an item that says that a field is left out, which carries nothing. -/
def readSkip (w : WireName) : Item → Except DeclarationFault WireName
  | .bare _ => .ok { w with skipped := true }
  | _ => .error .commaExpected

/-- Reads an item that renames a field. The flag tells whether nothing follows it. -/
def readRename (w : WireName) (atEnd : Bool) : Item → Except DeclarationFault WireName
  | .text _ value => .ok { w with name := value }
  | .expression _ => .error .textExpected
  | .bare _ => .error (.parenthesesExpected atEnd)
  | .list _ items => do return { w with name := ← readNames w.name items }

/-- Reads the items of one attribute of a field. -/
def readItems (w : WireName) : List Item → Except DeclarationFault WireName
  | [] => .ok w
  | item :: items => do
    let w ← if item.path = "rename" then readRename w items.isEmpty item
      else if saysSkip item then readSkip w item
      else do
        passItem item
        pure w
    readItems w items

/-- The name of a field before its own attributes are read. -/
def FieldDeclaration.defaultName (f : FieldDeclaration) (rule : Option RenamingRule) : String :=
  match rule with
  | some r => r.apply f.plainName
  | none => f.plainName

/-- The name under which a field is stored. -/
def FieldDeclaration.wireName (f : FieldDeclaration) (rule : Option RenamingRule) :
    Except DeclarationFault WireName :=
  (storageAttributes f.attributes).foldlM (fun w a => readItems w a.items)
    { name := f.defaultName rule }

end DocumentDb.Accessors
