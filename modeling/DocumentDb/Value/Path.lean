import DocumentDb.Text.Numeral
import DocumentDb.Text.Split
import DocumentDb.Value

/-!
# Paths into documents

A path is a text of segments with dots between them. A segment names an entry of a document or,
if it is a numeral, an item of an array.

**Reading** (`lookup`) follows the segments and gives nothing where one leads nowhere.
**Writing** (`setPath`) goes through documents only: where a segment but the last does not name a
document, an empty one takes its place. **Removing** (`removePath`) also goes through documents
only, and changes nothing if the path leads elsewhere.
-/

namespace DocumentDb

namespace Path

/-- The segments of a path. -/
def segments (path : String) : List String :=
  Text.splitText '.' path

/-- The path made of some segments. -/
def ofSegments (segments : List String) : String :=
  String.intercalate "." segments

end Path

namespace Value

/-- The value that some segments lead to from a value. -/
def resolve : Value → List String → Option Value
  | v, [] => some v
  | document es, s :: ss => (Assoc.get? es s).bind (resolve · ss)
  | array items, s :: ss => ((Text.natOfText? s).bind (items[·]?)).bind (resolve · ss)
  | _, _ :: _ => none

end Value

namespace Document

/-- The value that some segments lead to from a document. -/
def resolve (d : Document) : List String → Option Value
  | [] => none
  | s :: ss => (d.get? s).bind (Value.resolve · ss)

/-- The value at a path. -/
def lookup (d : Document) (path : String) : Option Value :=
  d.resolve (Path.segments path)

/-- The value at a path, or null if there is none. -/
def lookupOrNull (d : Document) (path : String) : Value :=
  (d.lookup path).getD .null

/-- The document under a key, or an empty one. -/
def documentAt (d : Document) (key : String) : Document :=
  match d.get? key with
  | some (.document es) => es
  | _ => []

/-- Puts a value where some segments lead. -/
def setSegments (v : Value) : Document → List String → Document
  | d, [] => d
  | d, [s] => d.insert s v
  | d, s :: ss => d.insert s (.document (setSegments v (d.documentAt s) ss))

/-- Puts a value at a path. -/
def setPath (d : Document) (path : String) (v : Value) : Document :=
  setSegments v d (Path.segments path)

/-- Removes the entry that some segments lead to. -/
def removeSegments : Document → List String → Document
  | d, [] => d
  | d, [s] => d.erase s
  | d, s :: ss =>
    match d.get? s with
    | some (.document es) => d.insert s (.document (removeSegments es ss))
    | _ => d

/-- Removes the entry at a path. -/
def removePath (d : Document) (path : String) : Document :=
  removeSegments d (Path.segments path)

end Document

end DocumentDb
