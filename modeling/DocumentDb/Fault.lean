import DocumentDb.Error
import DocumentDb.Value.Display

/-!
# What can be wrong with a request

The faults that the library itself finds, each with its wording, and the error that each one
becomes. Faults of operands are the caller's; faults of the database carry the code by which
databases of this family report them.
-/

namespace DocumentDb

/-- What can be wrong with an operand. -/
inductive OperandFault where
  /-- A conjunction or disjunction of nothing. -/
  | noOperands (operator : String)
  /-- A set operator was given something else than an array, described by `got`. -/
  | arrayExpected (operator field got : String)
  /-- A length was compared with something that is none. -/
  | lengthExpected (field : String) (got : Value)
  /-- A group value would overwrite the group key. -/
  | groupKeyTaken
  /-- Inclusion or exclusion outside a projection. -/
  | notComputed (field stage : String)
  | numberExpected (operator : String) (got : Value)
  | stringExpected (got : Value)
  | unknownOperator (operator : String)

namespace OperandFault

/-- The wording of a fault. -/
def wording : OperandFault → String
  | noOperands operator => operator ++ " needs at least one expression"
  | arrayExpected operator field got =>
    operator ++ " on `" ++ field ++ "` requires an array, got " ++ got
  | lengthExpected field got =>
    "$size on `" ++ field ++ "` requires a non-negative integer, got " ++ got.display
  | groupKeyTaken => "a $group accumulator cannot be named `_id`"
  | notComputed field stage =>
    "`" ++ field ++ "` can only be included or excluded in $project, not in " ++ stage
  | numberExpected operator got =>
    operator ++ " only supports numeric types, got " ++ got.display
  | stringExpected got => "$concat only supports strings, got " ++ got.display
  | unknownOperator operator => "unsupported expression operator " ++ operator

/-- The error that a fault becomes. -/
def error (f : OperandFault) : Error :=
  .invalidOperand f.wording

end OperandFault

/-- What the database refuses to do. -/
inductive DatabaseFault where
  /-- A value of a unique index is taken. -/
  | duplicateKey (collection field : String) (value : Value)
  | indexNotFound (field : String)
  /-- An operator was given the wrong number of arguments. -/
  | arity (operator : String) (expected given : Nat)
  | sizeOfNonArray (got : Value)
  | elementOfNonArray
  | entriesOfNonDocument
  | unknownAccumulator (operator : String)
  | notAnAccumulator (field : String)
  /-- A projection both keeps and drops fields. -/
  | mixedProjection (field : String)

namespace DatabaseFault

/-- The code by which a fault is known. -/
def code : DatabaseFault → Int
  | duplicateKey .. => 11000
  | indexNotFound _ => 27
  | arity .. => 16020
  | sizeOfNonArray _ => 17124
  | elementOfNonArray => 28689
  | entriesOfNonDocument => 40390
  | unknownAccumulator _ => 15952
  | notAnAccumulator _ => 40234
  | mixedProjection _ => 31254

/-- The wording of a fault. -/
def wording : DatabaseFault → String
  | duplicateKey collection field value =>
    "E11000 duplicate key error collection: " ++ collection ++ " index: " ++ field
      ++ "_1 dup key: \x7b " ++ field ++ ": " ++ value.display ++ " \x7d"
  | indexNotFound field => "index not found with name [" ++ field ++ "_1]"
  | arity operator expected given =>
    "Expression " ++ operator ++ " takes exactly " ++ toString expected ++ " arguments. "
      ++ toString given ++ " were passed in."
  | sizeOfNonArray got =>
    "The argument to $size must be an array. Type of argument: " ++ got.kindName
  | elementOfNonArray =>
    "$arrayElemAt's first argument must be an array and its second an integer"
  | entriesOfNonDocument => "$objectToArray requires a document input"
  | unknownAccumulator operator => "unknown group operator '" ++ operator ++ "'"
  | notAnAccumulator field => "The field '" ++ field ++ "' must be an accumulator object"
  | mixedProjection field =>
    "Invalid $project :: caused by :: Cannot do exclusion on field " ++ field
      ++ " in inclusion projection"

/-- The error that a fault becomes. -/
def error (f : DatabaseFault) : Error :=
  .native (some f.code) f.wording

end DatabaseFault

end DocumentDb
