import DocumentDb.Codec.Extended
import DocumentDb.Id

/-!
# Encoding values

How values of Lean types are stored. Texts and characters become strings, integers take the
width that their type fits, a missing value is null, a list is an array, and a stored value is
itself, with extended documents replaced by what they denote.

**What does not fit.** An unsigned number above the long range cannot be stored, and a `Refusal`
stands for a value that no encoder takes.
-/

namespace DocumentDb

/-- The reasons for which a value cannot be encoded. -/
inductive EncodeFault where
  | tooLarge (n : Nat)
  | custom (reason : String)

namespace EncodeFault

/-- The wording of a fault. -/
def wording : EncodeFault → String
  | tooLarge n =>
    "BSON error. Kind: Unsigned integer " ++ toString n ++ " cannot fit into BSON."
  | custom reason =>
    "BSON error. Kind: A serialization error occurred. Message: " ++ reason ++ "."

/-- The error that a fault becomes. -/
def error (f : EncodeFault) : Error :=
  .serialization f.wording

end EncodeFault

/-- A type whose values can be stored. -/
class Encode (α : Type) where
  encode : α → Except Error Value

export Encode (encode)

/-- A value that no encoder takes, with the reason. -/
structure Refusal where
  reason : String

instance : Encode String := ⟨fun s => .ok (.string s)⟩

instance : Encode Char := ⟨fun c => .ok (.string (String.ofList [c]))⟩

instance : Encode Bool := ⟨fun b => .ok (.bool b)⟩

instance : Encode Unit := ⟨fun _ => .ok .null⟩

instance : Encode Int32 := ⟨fun n => .ok (.int32 n)⟩

instance : Encode UInt8 := ⟨fun n => .ok (.int32 (Int32.ofNat n.toNat))⟩

instance : Encode Int64 := ⟨fun n => .ok (.int64 n)⟩

instance : Encode UInt32 := ⟨fun n => .ok (.int64 (Int64.ofNat n.toNat))⟩

instance : Encode UInt64 :=
  ⟨fun n =>
    if n.toNat < Nat.pow 2 63 then .ok (.int64 (Int64.ofNat n.toNat))
    else .error (EncodeFault.tooLarge n.toNat).error⟩

instance : Encode Binary64 := ⟨fun x => .ok (.double x)⟩

instance {collection : String} : Encode (Id collection) := ⟨fun i => .ok (.string i.value)⟩

instance : Encode Value := ⟨fun v => .ok v.denote⟩

instance : Encode Refusal := ⟨fun r => .error (EncodeFault.custom r.reason).error⟩

instance {α : Type} [Encode α] : Encode (Option α) :=
  ⟨fun
    | some a => encode a
    | none => .ok .null⟩

/-- Encodes the items of a list, from the left. -/
def encodeItems {α : Type} [Encode α] : List α → Except Error (List Value)
  | [] => .ok []
  | a :: as => do
    let v ← encode a
    return v :: (← encodeItems as)

instance {α : Type} [Encode α] : Encode (List α) :=
  ⟨fun as => do return .array (← encodeItems as)⟩

/-- Encodes the values of a map, from the left. -/
def encodeEntries {α : Type} [Encode α] : Assoc α → Except Error Document
  | [] => .ok []
  | (k, a) :: es => do
    let v ← encode a
    return (k, v) :: (← encodeEntries es)

instance {α : Type} [Encode α] : Encode (Assoc α) :=
  ⟨fun es => do return .ofEntries (← encodeEntries es)⟩

/-- Encodes a value as a whole document. -/
def encodeDocument {α : Type} [Encode α] (a : α) : Except Error Document := do
  match ← encode a with
  | .document es => return es
  | v => .error (.invalidDocument ("expected a document, encoded a " ++ v.kindName))

end DocumentDb
