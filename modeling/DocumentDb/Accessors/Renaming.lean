/-!
# Renaming rules

A type can say that all its fields are stored in another case. The rules take a name for words with
underscores between them and change letters of the basic alphabet only.
-/

namespace DocumentDb.Accessors

/-- How the names of all fields are changed. -/
inductive RenamingRule where
  | lower
  | upper
  | pascal
  | camel
  | snake
  | screamingSnake
  | kebab
  | screamingKebab
deriving DecidableEq

/-- The name with each word capitalised and the underscores dropped. The flag tells whether a word
begins here. -/
def capitalizeWords (atStart : Bool) : List Char → List Char
  | [] => []
  | c :: cs =>
    if c = '_' then capitalizeWords true cs
    else (if atStart then c.toUpper else c) :: capitalizeWords false cs

/-- The same characters beginning with a small letter. -/
def decapitalize : List Char → List Char
  | [] => []
  | c :: cs => c.toLower :: cs

/-- The same characters with hyphens for underscores. -/
def hyphenate (cs : List Char) : List Char :=
  cs.map fun c => if c = '_' then '-' else c

namespace RenamingRule

/-- The rule of a name. -/
def ofName? (name : String) : Option RenamingRule :=
  if name = "lowercase" then some lower
  else if name = "UPPERCASE" then some upper
  else if name = "PascalCase" then some pascal
  else if name = "camelCase" then some camel
  else if name = "snake_case" then some snake
  else if name = "SCREAMING_SNAKE_CASE" then some screamingSnake
  else if name = "kebab-case" then some kebab
  else if name = "SCREAMING-KEBAB-CASE" then some screamingKebab
  else none

/-- The characters of a changed name. -/
def applyChars : RenamingRule → List Char → List Char
  | lower, cs | snake, cs => cs
  | upper, cs | screamingSnake, cs => cs.map Char.toUpper
  | pascal, cs => capitalizeWords true cs
  | camel, cs => decapitalize (capitalizeWords true cs)
  | kebab, cs => hyphenate cs
  | screamingKebab, cs => hyphenate (cs.map Char.toUpper)

/-- The changed name of a field. -/
def apply (r : RenamingRule) (name : String) : String :=
  String.ofList (r.applyChars name.toList)

end RenamingRule

end DocumentDb.Accessors
