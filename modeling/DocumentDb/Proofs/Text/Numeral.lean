import DocumentDb.Binary64.Text

/-!
# Characters of numerals

What integers and binary numbers are written with: digits, signs, the point, the mark of the
exponent and the letters of the numbers that are none (`Text.isNumeric`). So there is nothing in a
numeral that a message or a JSON text sets apart.
-/

namespace DocumentDb

namespace Text

/-- The characters of numerals that are no digits. -/
def numericMarks : List Char :=
  ['-', '+', '.', 'e', 'i', 'n', 'f', 'N', 'a']

/-- Whether a character occurs in numerals. -/
def isNumeric (c : Char) : Bool :=
  c.isDigit || numericMarks.contains c

/-- A text holds only characters of numerals. -/
def Numeric (t : String) : Prop :=
  t.toList.all isNumeric = true

instance (t : String) : Decidable (Numeric t) :=
  inferInstanceAs (Decidable (_ = true))

theorem isNumeric_of_isDigit {c : Char} (h : c.isDigit = true) : isNumeric c = true := by
  rw [isNumeric, h, Bool.true_or]

theorem Numeric.append {t u : String} (ht : Numeric t) (hu : Numeric u) : Numeric (t ++ u) := by
  rw [Numeric, String.toList_append, List.all_append, Bool.and_eq_true]
  exact ⟨ht, hu⟩

theorem numeric_ofList {cs : List Char} (h : ∀ c ∈ cs, isNumeric c = true) :
    Numeric (String.ofList cs) := by
  rwa [Numeric, String.toList_ofList, List.all_eq_true]

theorem Numeric.ofList {t : String} {cs : List Char} (h : Numeric t) (hcs : cs ⊆ t.toList) :
    Numeric (String.ofList cs) :=
  numeric_ofList fun c hc => List.all_eq_true.1 h c (hcs hc)

theorem numeric_toDigits (n : Nat) : Numeric (String.ofList (Nat.toDigits 10 n)) :=
  numeric_ofList fun _ hc =>
    isNumeric_of_isDigit (Nat.isDigit_of_mem_toDigits (by decide) (by decide) hc)

theorem numeric_toString_nat (n : Nat) : Numeric (toString n) :=
  numeric_toDigits n

theorem numeric_toString_int (n : Int) : Numeric (toString n) := by
  cases n with
  | ofNat n => exact numeric_toString_nat n
  | negSucc n => exact Numeric.append (t := "-") (by decide) (numeric_toString_nat (n + 1))

end Text

namespace Binary64

open Text

theorem numeric_zeros (n : Nat) : Numeric (zeros n) :=
  numeric_ofList fun c hc => by
    rw [List.eq_of_mem_replicate hc]
    rfl

theorem numeric_digitText (d : Decimal) : Numeric d.digitText := by
  refine (numeric_toDigits d.digits).ofList fun c hc => ?_
  rw [String.toList_ofList]
  exact List.mem_reverse.1 ((List.dropWhile_sublist _).subset (List.mem_reverse.1 hc))

theorem numeric_around {digits : String} (h : Numeric digits) (l : Layout) (point : Int) :
    Numeric (l.around digits point) := by
  rw [Layout.around]
  split
  · exact (Numeric.append (by decide) (numeric_zeros _)).append h
  · split
    · refine (h.append (numeric_zeros _)).append ?_
      split <;> decide
    · exact ((h.ofList (List.take_subset _ _)).append (by decide)).append
        (h.ofList (List.drop_subset _ _))

theorem numeric_scientific {digits : String} (h : Numeric digits) (exponent : Int) :
    Numeric (scientific digits exponent) := by
  rw [scientific]
  have hfraction : Numeric (if digits.toList.length ≤ 1 then ""
      else "." ++ String.ofList (digits.toList.drop 1)) := by
    split
    · decide
    · exact Numeric.append (by decide) (h.ofList (List.drop_subset _ _))
  have hsign : Numeric (if exponent < 0 then "-" else "+") := by
    split <;> decide
  exact ((((h.ofList (List.take_subset _ _)).append hfraction).append (by decide)).append
    hsign).append (numeric_toString_nat _)

theorem numeric_decimal (l : Layout) (d : Decimal) : Numeric (l.decimal d) := by
  have h := numeric_digitText d
  rw [Layout.decimal]
  split
  · split
    · exact numeric_around h l d.point
    · exact numeric_scientific h _
  · exact numeric_around h l d.point

/-- A binary number is written with characters of numerals, in every layout. -/
theorem numeric_text (l : Layout) (x : Binary64) : Numeric (x.text l) := by
  rw [text]
  split
  · decide
  · refine Numeric.append (by split <;> decide) ?_
    split
    · decide
    · split
      · exact numeric_around (by decide) l 1
      · exact numeric_decimal l _

end Binary64

end DocumentDb
