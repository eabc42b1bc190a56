import DocumentDb.Error

/-!
# Failures of writes

Callers of a write want to tell a few kinds of trouble apart: a key that is taken, a sample that
drew the same document twice, a document that is not there. `Failure.classify` sorts an error
into one of these, by its kind and by the code of the database, and keeps the error.

**Without a code** an error of the database counts as a taken key if its text says so.
-/

namespace DocumentDb

/-- A failed write: the kind of trouble and the error behind it. -/
inductive Failure where
  | duplicateKey (cause : Error)
  | sampleNoNonDuplicate (cause : Error)
  | noMatchingDocument (cause : Error)
  | unknown (cause : Error)
deriving DecidableEq

/-- The codes with which a database reports a taken key. -/
def duplicateKeyCodes : List Int := [11000, 11001, 12582]

/-- The code with which a database reports a sample without enough distinct documents. -/
def sampleNoNonDuplicateCode : Int := 28799

/-- Whether `part` occurs in a row of characters. -/
def occursIn (part : List Char) : List Char → Bool
  | [] => part.isEmpty
  | c :: cs => part.isPrefixOf (c :: cs) || occursIn part cs

namespace Failure

/-- Sorts an error by its kind. -/
def classify (e : Error) : Failure :=
  match e with
  | .alreadyExists .. => duplicateKey e
  | .notFound .. => noMatchingDocument e
  | .native (some code) _ =>
    if duplicateKeyCodes.contains code then duplicateKey e
    else if code = sampleNoNonDuplicateCode then sampleNoNonDuplicate e
    else unknown e
  | .native none detail =>
    if occursIn "duplicate key".toList detail.toList then duplicateKey e else unknown e
  | _ => unknown e

/-- The error behind a failure. -/
def cause : Failure → Error
  | duplicateKey e | sampleNoNonDuplicate e | noMatchingDocument e | unknown e => e

/-- The name of the kind of a failure, for reports. -/
def kindName : Failure → String
  | duplicateKey _ => "DuplicateKey"
  | sampleNoNonDuplicate _ => "SampleNoNonDuplicate"
  | noMatchingDocument _ => "NoMatchingDocument"
  | unknown _ => "Unknown"

/-- The wording of a failure. -/
def message : Failure → String
  | duplicateKey e => "duplicate key: " ++ e.message
  | sampleNoNonDuplicate e => "sample found no non-duplicate document: " ++ e.message
  | noMatchingDocument e => "no matching document: " ++ e.message
  | unknown e => e.message

/-- Sorting loses nothing of the error. -/
theorem cause_classify (e : Error) : (classify e).cause = e := by
  unfold classify
  repeat' split
  all_goals rfl

end Failure

/-- Sorts the error of a result. -/
def classified {α : Type} : Except Error α → Except Failure α
  | .ok a => .ok a
  | .error e => .error (.classify e)

end DocumentDb
