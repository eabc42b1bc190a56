import DocumentDb.Assoc
import DocumentDb.Binary64

/-!
# Values and documents

A document maps keys to values in the order in which the keys were put, and a value is a scalar
of one of many kinds, an array of values, or a document again.

**Keys.** Values and documents are nested in each other, so a document is a plain list of entries
and its type does not say that no key comes twice. No operation makes a key come twice. Laws that
need this are about documents that carry it (`Dictionary`, `KeyedDocument`).

**Kinds.** Numbers come in four kinds that are kept apart: two widths of integers, binary
floating point, and decimals, which are carried as their text. Strings and symbols are two kinds
of text. `minKey` and `maxKey` stand before and after everything else. Pointers to documents of
other databases, a kind out of use, are left out.
-/

namespace DocumentDb

/-- A value that a document can hold. -/
inductive Value where
  | null
  | undefined
  | minKey
  | maxKey
  | bool (b : Bool)
  | int32 (n : Int32)
  | int64 (n : Int64)
  | double (x : Binary64)
  | decimal (text : String)
  | string (s : String)
  | symbol (s : String)
  | array (items : List Value)
  | document (entries : List (String × Value))
  | binary (subtype : UInt8) (bytes : List UInt8)
  | objectId (bytes : List UInt8)
  | dateTime (millis : Int64)
  | timestamp (time increment : UInt32)
  | regex (pattern options : String)
  | code (source : String)
  | codeWithScope (source : String) (scope : List (String × Value))
deriving Inhabited

/-- A document: its entries in order. -/
abbrev Document := Assoc Value

/-- The key under which a document holds its identifier. -/
def idKey : String := "_id"

namespace Value

/-- The name of the kind of a value, as messages give it. -/
def kindName : Value → String
  | null => "Null"
  | undefined => "Undefined"
  | minKey => "MinKey"
  | maxKey => "MaxKey"
  | bool _ => "Boolean"
  | int32 _ => "Int32"
  | int64 _ => "Int64"
  | double _ => "Double"
  | decimal _ => "Decimal128"
  | string _ => "String"
  | symbol _ => "Symbol"
  | array _ => "Array"
  | document _ => "EmbeddedDocument"
  | binary .. => "Binary"
  | objectId _ => "ObjectId"
  | dateTime _ => "DateTime"
  | timestamp .. => "Timestamp"
  | regex .. => "RegularExpression"
  | code _ => "JavaScriptCode"
  | codeWithScope .. => "JavaScriptCodeWithScope"

/-- A count as a value: in the short width if it fits there. -/
def ofCount (n : Nat) : Value :=
  if n < Nat.pow 2 31 then int32 (Int32.ofNat n) else int64 (Int64.ofNat n)

/-- The text of a string value. -/
def text? : Value → Option String
  | string s => some s
  | _ => none

def isNull : Value → Bool
  | null => true
  | _ => false

/-- Whether a value stands for the lack of one. -/
def isNothing : Value → Bool
  | null | undefined => true
  | _ => false

/-- The length that an integer value stands for. -/
def length? : Value → Option Nat
  | int32 n => if 0 ≤ n.toInt then some n.toInt.toNat else none
  | int64 n => if 0 ≤ n.toInt then some n.toInt.toNat else none
  | _ => none

/-- The items of an array value. -/
def items? : Value → Option (List Value)
  | array items => some items
  | _ => none

end Value

namespace Document

/-- A document with one entry. -/
def single (key : String) (v : Value) : Document :=
  [(key, v)]

/-- The identifier of a document, if it is a string. -/
def id? (d : Document) : Option String :=
  (d.get? idKey).bind Value.text?

theorem id?_eq_some_iff {d : Document} {id : String} :
    d.id? = some id ↔ d.get? idKey = some (.string id) := by
  rw [id?]
  cases d.get? idKey with
  | none => simp
  | some v => cases v <;> simp [Value.text?]

end Document

end DocumentDb
