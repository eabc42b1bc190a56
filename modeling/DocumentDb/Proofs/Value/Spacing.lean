import DocumentDb.Pipeline.Render
import DocumentDb.Proofs.Text.Separators
import Mathlib.Data.List.Forall2

/-!
# Spaces in JSON texts

The spaced form of a JSON text is the compact form with a space behind each separator outside of
string literals, and keys and texts are literals, so nothing in them is taken for a separator.

The proof follows the syntax of a value. Parts that are loosened one by one are loosened in brackets
and in braces (`loosens_bracketed`, `loosens_braced`), and what is written without brackets is a
literal, a numeral or a name.

**Theorem (`spacing_of_json`).** The two forms of a document, and those of the query text of some
stages behind the name of the collection, differ only in the spaces behind separators.
-/

namespace DocumentDb

open Text

/-! ## Arrays and objects -/

section Parts

variable {xs ys : List String} {x y : String}

theorem loosens_intercalate (h : List.Forall₂ Loosens xs ys) :
    Loosens (String.intercalate ", " xs) (String.intercalate "," ys) := by
  induction h with
  | nil => exact loosens_self (by decide)
  | @cons x y xs ys hxy h ih =>
    cases h with
    | nil => rwa [String.intercalate_singleton, String.intercalate_singleton]
    | cons hxy' h =>
      rw [String.intercalate_cons_cons, String.intercalate_cons_cons]
      exact (hxy.append loosens_comma).append ih

theorem loosens_bracketed (h : List.Forall₂ Loosens xs ys) :
    Loosens (Spacing.spaced.bracketed xs) (Spacing.compact.bracketed ys) :=
  ((loosens_self (by decide)).append (loosens_intercalate h)).append (loosens_self (by decide))

theorem loosens_braced (h : List.Forall₂ Loosens xs ys) :
    Loosens (Spacing.spaced.braced xs) (Spacing.compact.braced ys) :=
  ((loosens_self (by decide)).append (loosens_intercalate h)).append (loosens_self (by decide))

theorem loosens_entry (key : String) (h : Loosens x y) :
    Loosens (Spacing.spaced.entry key x) (Spacing.compact.entry key y) :=
  ((loosens_jsonQuoted key).append loosens_colon).append h

theorem loosens_tagged (key : String) (h : Loosens x y) :
    Loosens (Spacing.spaced.tagged key x) (Spacing.compact.tagged key y) :=
  loosens_braced (.cons (loosens_entry key h) .nil)

/-- An object of two entries. -/
theorem loosens_braced_pair {x' y' : String} (key key' : String) (h : Loosens x y)
    (h' : Loosens x' y') :
    Loosens (Spacing.spaced.braced [Spacing.spaced.entry key x, Spacing.spaced.entry key' x'])
      (Spacing.compact.braced [Spacing.compact.entry key y, Spacing.compact.entry key' y']) :=
  loosens_braced (.cons (loosens_entry key h) (.cons (loosens_entry key' h') .nil))

end Parts

/-! ## Values -/

theorem Binary64.loosens_json (x : Binary64) : Loosens x.json x.json := by
  rw [json]
  split
  · exact loosens_numeral (x.numeric_text .json)
  · exact loosens_self (by decide)

mutual

theorem Value.loosens_json (v : Value) : Loosens (v.json .spaced) (v.json .compact) := by
  cases v with
  | null => exact loosens_self (by decide)
  | bool b => cases b <;> exact loosens_self (by decide)
  | undefined => exact loosens_tagged _ (loosens_self (by decide))
  | minKey | maxKey => exact loosens_tagged _ (loosens_self (by decide))
  | int32 n => exact loosens_numeral (numeric_toString_int n.toInt)
  | int64 n => exact loosens_numeral (numeric_toString_int n.toInt)
  | double x => exact x.loosens_json
  | string t => exact loosens_jsonQuoted t
  | decimal t | symbol t | code t => exact loosens_tagged _ (loosens_jsonQuoted t)
  | array items => exact loosens_bracketed (loosens_jsonItems items)
  | document es => exact loosens_braced (loosens_jsonEntries es)
  | binary subtype bytes =>
    rw [Value.json, Value.json]
    split
    · refine loosens_bracketed (List.forall₂_same.2 fun t ht => ?_)
      obtain ⟨b, -, rfl⟩ := List.mem_map.1 ht
      exact loosens_numeral (numeric_toString_nat b.toNat)
    · exact loosens_tagged _
        (loosens_braced_pair _ _ (loosens_jsonQuoted _) (loosens_jsonQuoted _))
  | objectId bytes => exact loosens_tagged _ (loosens_jsonQuoted _)
  | dateTime millis => exact loosens_tagged _ (loosens_tagged _ (loosens_jsonQuoted _))
  | timestamp time increment =>
    exact loosens_tagged _ (loosens_braced_pair _ _ (loosens_numeral (numeric_toString_nat _))
      (loosens_numeral (numeric_toString_nat _)))
  | regex pattern options =>
    exact loosens_tagged _
      (loosens_braced_pair _ _ (loosens_jsonQuoted pattern) (loosens_jsonQuoted options))
  | codeWithScope source scope =>
    exact loosens_braced_pair _ _ (loosens_jsonQuoted source)
      (loosens_braced (loosens_jsonEntries scope))

theorem loosens_jsonItems (vs : List Value) :
    List.Forall₂ Loosens (jsonItems .spaced vs) (jsonItems .compact vs) := by
  cases vs with
  | nil => exact .nil
  | cons v vs => exact .cons v.loosens_json (loosens_jsonItems vs)

theorem loosens_jsonEntries (es : List (String × Value)) :
    List.Forall₂ Loosens (jsonEntries .spaced es) (jsonEntries .compact es) := by
  cases es with
  | nil => exact .nil
  | cons e es => exact .cons (loosens_entry e.1 e.2.loosens_json) (loosens_jsonEntries es)

end

/-! ## Main result -/

theorem loosens_stages (stages : List Document) :
    Loosens (Spacing.spaced.bracketed (stages.map (Document.json .spaced)) ++ ")")
      (Spacing.compact.bracketed (stages.map (Document.json .compact)) ++ ")") := by
  refine (loosens_bracketed ?_).append (loosens_self (by decide))
  rw [List.forall₂_map_left_iff, List.forall₂_map_right_iff]
  exact List.forall₂_same.2 fun d _ => Value.loosens_json (.document d)

/-- **Spaces in JSON texts.** The spaced form of a document is the compact one with a space behind
each comma and colon outside of string literals, where the compact one has only visible characters.
So it is with the query text of some stages behind the name of the collection, and with the whole
text if there is no separator and no quotation mark in the name. -/
theorem spacing_of_json :
    (∀ d : Document, Loosens (d.json .spaced) (d.json .compact)) ∧
      ∀ (name : String) (stages : List Document),
        (∃ x y, Loosens x y ∧
          queryText name stages .spaced = "db." ++ name ++ ".aggregate(" ++ x ∧
          queryText name stages .compact = "db." ++ name ++ ".aggregate(" ++ y) ∧
        (name.toList.all isOrdinary = true →
          tighten (queryText name stages .spaced) = queryText name stages .compact ∧
          loosen (queryText name stages .compact) = queryText name stages .spaced) := by
  refine ⟨fun d => Value.loosens_json (.document d), fun name stages => ?_⟩
  have h := loosens_stages stages
  have hquery (s : Spacing) : queryText name stages s = "db." ++ name ++ ".aggregate(" ++
      (s.bracketed (stages.map (Document.json s)) ++ ")") := String.append_assoc ..
  refine ⟨⟨_, _, h, hquery .spaced, hquery .compact⟩, fun hname => ?_⟩
  have hfront : ("db." ++ name ++ ".aggregate(").toList.all isOrdinary = true := by
    rw [String.toList_append, String.toList_append, List.all_append, List.all_append, hname]
    decide
  rw [hquery, hquery, tighten_append_of_isOrdinary hfront, loosen_append_of_isOrdinary hfront,
    h.tighten_eq, h.loosen_eq]
  exact ⟨rfl, rfl⟩

/-- Separators, quotation marks and backslashes in keys and texts are left alone. -/
theorem spacing_of_json_quoted :
    let stages : List Document := [[("a\", b", .array [.string "\\: ", .int32 2])]]
    "people".toList.all isOrdinary = true ∧
      queryText "people" stages .spaced =
        "db.people.aggregate([\x7b\"a\\\", b\": [\"\\\\: \", 2]\x7d])" ∧
      tighten (queryText "people" stages .spaced) = queryText "people" stages .compact := by
  intro stages
  have hname : "people".toList.all isOrdinary = true := by decide
  exact ⟨hname, rfl, ((spacing_of_json.2 "people" stages).2 hname).1⟩

end DocumentDb
