/-!
# Splitting text

A row of characters is split at every place where a separator stands. There is one piece more than
there are separators, and putting the separator between the pieces gives back the whole.
-/

namespace DocumentDb.Text

/-- The pieces between the places where `separator` stands. -/
def splitChars (separator : Char) : List Char → List (List Char)
  | [] => [[]]
  | c :: cs =>
    if c = separator then [] :: splitChars separator cs
    else (splitChars separator cs).modifyHead (c :: ·)

/-- The pieces of a text between the places where `separator` stands. -/
def splitText (separator : Char) (s : String) : List String :=
  (splitChars separator s.toList).map String.ofList

theorem splitChars_ne_nil (separator : Char) (cs : List Char) :
    splitChars separator cs ≠ [] := by
  induction cs with
  | nil => simp [splitChars]
  | cons c cs ih =>
    unfold splitChars
    split
    · simp
    · simpa using ih

end DocumentDb.Text
