import DocumentDb.Text.Casing
import DocumentDb.Text.Mark

/-!
# Words in a name

A name is split into words at underscores, hyphens and spaces, which are dropped, and also where its
letters and digits show that a new word begins: between a small letter and a capital, between a
letter and a digit either way, and before the last capital of a row that a small letter follows.

**Marks** belong to the letter with which they are read, so an accent that is written as a character
of its own does not change where words begin. A digit or a separator with a mark is neither.

`snakeCase` writes the words in small letters with underscores between them, so `HTTPServer2`
becomes `http_server_2`.
-/

namespace DocumentDb.Text

/-! ## Kinds of letters -/

/-- Whether a letter with its marks is a capital. -/
def isCapital (k : List Char) : Bool :=
  let s := String.ofList k
  toUpper s != toLower s && toUpper s == s

/-- Whether a letter with its marks is a small one. -/
def isSmall (k : List Char) : Bool :=
  let s := String.ofList k
  toUpper s != toLower s && toLower s == s

/-- Whether a character stands alone and is a digit. -/
def isDigit (k : List Char) : Bool :=
  k.all Char.isDigit

/-- Whether a character stands alone, separates words and belongs to none. -/
def isSeparator (k : List Char) : Bool :=
  k == ['_'] || k == ['-'] || k == [' ']

/-- Whether a word begins with the second of two letters or digits that stand next to each other. -/
def startsWord (j k : List Char) : Bool :=
  (isSmall j && isCapital k) || (isCapital j && isDigit k) || (isDigit j && isCapital k)
    || (isDigit j && isSmall k) || (isSmall j && isDigit k)

/-- Whether a word begins with the second of some letters: by the first two, or because the row of
capitals ends there. -/
def breaksAt : List (List Char) → Bool
  | i :: j :: k :: _ => startsWord i j || (isCapital i && isCapital j && isSmall k)
  | [i, j] => startsWord i j
  | _ => false

/-! ## Words -/

/-- The pieces of a row of letters between the places where words begin; some can be empty. -/
def pieces : List (List Char) → List (List Char)
  | [] => [[]]
  | k :: ks =>
    if isSeparator k then [] :: pieces ks
    else if breaksAt (k :: ks) then k :: pieces ks
    else (pieces ks).modifyHead (k ++ ·)

/-- The words of a name. -/
def words (s : String) : List String :=
  ((pieces (clusters s.toList)).filter (!·.isEmpty)).map String.ofList

/-- The words of a name in small letters with underscores between them. -/
def snakeCase (s : String) : String :=
  String.intercalate "_" ((words s).map toLower)

end DocumentDb.Text
