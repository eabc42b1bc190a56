import DocumentDb.Text.Casing.Table
import DocumentDb.Text.Ranges

/-!
# Upper and lower case of a text

Each character is replaced by its spelling in the other case. One letter depends on its place: a
capital sigma at the end of a word becomes the final form of the small one. It is at the end of a
word when the nearest character before it that is not skipped is a letter with case, and the
nearest one after it is not.
-/

namespace DocumentDb.Text

/-- The spelling of a character by a table of runs and one of longer spellings. -/
def spelling (runs : List CaseRun) (spellings : List (Nat × List Nat)) (c : Char) : List Char :=
  match spellings.find? (·.1 == c.toNat) with
  | some (_, cs) => cs.map Char.ofNat
  | none =>
    match runs.find? (·.holds c.toNat) with
    | some r => [Char.ofNat (c.toNat + r.shift).toNat]
    | none => [c]

/-- The upper case of a text. -/
def toUpper (s : String) : String :=
  String.ofList (s.toList.flatMap (spelling upperRuns upperSpellings))

/-- Whether the first character that is not skipped is a letter with case. -/
def startsWithCased (cs : List Char) : Bool :=
  match cs.dropWhile (inRanges caseIgnorableRanges) with
  | c :: _ => inRanges casedRanges c
  | [] => false

/-- The lower case of the characters that follow `before`, which is held in reverse. -/
def lowerChars (before : List Char) : List Char → List Char
  | [] => []
  | c :: after =>
    (if c = 'Σ' then
      [if startsWithCased before && !startsWithCased after then 'ς' else 'σ']
    else spelling lowerRuns lowerSpellings c) ++ lowerChars (c :: before) after

/-- The lower case of a text. -/
def toLower (s : String) : String :=
  String.ofList (lowerChars [] s.toList)

end DocumentDb.Text
