import DocumentDb.Proofs.Text.Numeral
import DocumentDb.Text.Quoted

/-!
# Spaces behind separators

Two texts that differ only in the spaces behind their commas and colons, where those in string
literals do not count.

**Scanning** (`Scan`). A scanner reads a text from the front and knows whether it is in a string
literal, and there whether it is directly behind a backslash. What is written for a character
depends on it and on where the scanner stands (`Scan.write`): `tighten` leaves out the space behind
a separator, `loosen` puts one there, and `bare` gives the characters outside of literals.

**Loosening** (`Loosens`). One text is the other with a space behind each separator. The relation is
kept under joining, because what is joined begins and ends outside of literals, and it is shared by
all texts without separators and all string literals.
-/

namespace DocumentDb.Text

/-- Whether a character is a visible one of ASCII. -/
def isVisible (c : Char) : Bool :=
  decide (0x20 < c.toNat ∧ c.toNat < 0x7f)

/-- Whether a character is nothing special outside of string literals. -/
def isOrdinary (c : Char) : Bool :=
  c != '"' && c != ',' && c != ':'

/-! ## Scanning -/

/-- Where a scanner stands in a text with string literals. -/
inductive Scan where
  | outside
  /-- Outside of literals and directly behind a separator. -/
  | separated
  | inside
  /-- In a literal and directly behind a backslash that escapes what follows. -/
  | escaped
deriving DecidableEq

namespace Scan

/-- Whether a scanner stands in a literal. -/
def inLiteral : Scan → Bool
  | outside | separated => false
  | inside | escaped => true

/-- Where a scanner stands behind a further character. -/
def next (s : Scan) (c : Char) : Scan :=
  match s with
  | outside | separated =>
    if c = '"' then inside else if c = ',' ∨ c = ':' then separated else outside
  | inside => if c = '"' then outside else if c = '\\' then escaped else inside
  | escaped => inside

/-- Where a scanner stands behind further characters. -/
def after (s : Scan) (cs : List Char) : Scan :=
  cs.foldl next s

/-- What is written for some characters, one after the other. -/
def write (f : Scan → Char → List Char) : Scan → List Char → List Char
  | _, [] => []
  | s, c :: cs => f s c ++ write f (s.next c) cs

/-- A character, unless it is the space behind a separator. -/
def tightened (s : Scan) (c : Char) : List Char :=
  if s = separated ∧ c = ' ' then [] else [c]

/-- A character, with a space if it is a separator. -/
def loosened (s : Scan) (c : Char) : List Char :=
  if s.next c = separated then [c, ' '] else [c]

/-- A character, unless it is in a literal. -/
def bared (s : Scan) (c : Char) : List Char :=
  if s.inLiteral then [] else [c]

variable {f : Scan → Char → List Char}

theorem after_append (s : Scan) (cs ds : List Char) : s.after (cs ++ ds) = (s.after cs).after ds :=
  List.foldl_append

theorem write_append (s : Scan) (cs ds : List Char) :
    write f s (cs ++ ds) = write f s cs ++ write f (s.after cs) ds := by
  induction cs generalizing s with
  | nil => rfl
  | cons c cs ih => rw [List.cons_append, write, write, ih, List.append_assoc]; rfl

/-- Behind a separator a scanner goes on as elsewhere outside of literals. -/
theorem write_of_not_inLiteral {s : Scan} (hf : ∀ c, f separated c = f outside c)
    (hs : s.inLiteral = false) (cs : List Char) : write f s cs = write f outside cs := by
  cases s with
  | outside => rfl
  | separated =>
    cases cs with
    | nil => rfl
    | cons c cs => rw [write, write, hf]; rfl
  | inside | escaped => cases hs

theorem inLiteral_after {s : Scan} (hs : s.inLiteral = false) (cs : List Char) :
    (s.after cs).inLiteral = (outside.after cs).inLiteral := by
  cases s with
  | outside => rfl
  | separated => cases cs <;> rfl
  | inside | escaped => cases hs

end Scan

open Scan

/-- A text without the space behind each separator outside of literals. -/
def tighten (t : String) : String :=
  String.ofList (write tightened outside t.toList)

/-- A text with a space behind each separator outside of literals. -/
def loosen (t : String) : String :=
  String.ofList (write loosened outside t.toList)

/-- The characters of a text outside of literals, with the quotation marks that begin them. -/
def bare (t : String) : List Char :=
  write bared outside t.toList

/-! ## Loosening -/

/-- One text is the other one with a space behind each separator outside of literals, where there
is none in the other one, which has only visible characters outside of literals. -/
structure Loosens (x y : String) : Prop where
  tighten_eq : tighten x = y
  loosen_eq : loosen y = x
  visible : (bare y).all isVisible = true
  closed : outside.after x.toList = outside
  closed' : (outside.after y.toList).inLiteral = false

namespace Loosens

variable {x y x' y' : String}

theorem append (h : Loosens x y) (h' : Loosens x' y') : Loosens (x ++ x') (y ++ y') where
  tighten_eq := by
    rw [tighten, String.toList_append, write_append, h.closed, String.ofList_append, ← tighten,
      ← tighten, h.tighten_eq, h'.tighten_eq]
  loosen_eq := by
    rw [loosen, String.toList_append, write_append,
      write_of_not_inLiteral (fun _ => rfl) h.closed', String.ofList_append, ← loosen, ← loosen,
      h.loosen_eq, h'.loosen_eq]
  visible := by
    rw [bare, String.toList_append, write_append, write_of_not_inLiteral (fun _ => rfl) h.closed']
    rw [List.all_append, Bool.and_eq_true]
    exact ⟨h.visible, h'.visible⟩
  closed := by
    rw [String.toList_append, after_append, h.closed, h'.closed]
  closed' := by
    rw [String.toList_append, after_append, inLiteral_after h.closed', h'.closed']

end Loosens

/-! ## Texts without separators -/

theorem next_of_isOrdinary {c : Char} (h : isOrdinary c = true) : outside.next c = outside := by
  simp only [isOrdinary, Bool.and_eq_true, bne_iff_ne] at h
  rw [next, if_neg h.1.1, if_neg (not_or.2 ⟨h.1.2, h.2⟩)]

theorem after_of_isOrdinary {cs : List Char} (h : cs.all isOrdinary = true) :
    outside.after cs = outside := by
  induction cs with
  | nil => rfl
  | cons c cs ih =>
    rw [List.all_cons, Bool.and_eq_true] at h
    rw [after, List.foldl_cons, next_of_isOrdinary h.1]
    exact ih h.2

/-- Ordinary characters are written as they are. -/
theorem write_of_isOrdinary {f : Scan → Char → List Char} {cs : List Char}
    (h : cs.all isOrdinary = true)
    (hf : ∀ c, outside.next c = outside → f outside c = [c]) : write f outside cs = cs := by
  induction cs with
  | nil => rfl
  | cons c cs ih =>
    rw [List.all_cons, Bool.and_eq_true] at h
    have hnext := next_of_isOrdinary h.1
    rw [write, hf c hnext, hnext, ih h.2, List.singleton_append]

section Ordinary

variable {x : String} (h : x.toList.all isOrdinary = true)
include h

theorem tighten_append_of_isOrdinary (y : String) : tighten (x ++ y) = x ++ tighten y := by
  rw [tighten, String.toList_append, write_append, after_of_isOrdinary h,
    write_of_isOrdinary h fun _ _ => rfl, String.ofList_append, String.ofList_toList, ← tighten]

theorem loosen_append_of_isOrdinary (y : String) : loosen (x ++ y) = x ++ loosen y := by
  have hloosened : ∀ c, outside.next c = outside → loosened outside c = [c] := by
    intro c hc
    rw [loosened, hc]
    rfl
  rw [loosen, String.toList_append, write_append, after_of_isOrdinary h,
    write_of_isOrdinary h hloosened, String.ofList_append, String.ofList_toList, ← loosen]

end Ordinary

theorem loosens_self {x : String}
    (h : (x.toList.all fun c => isOrdinary c && isVisible c) = true) : Loosens x x := by
  simp only [List.all_eq_true, Bool.and_eq_true] at h
  have hordinary : x.toList.all isOrdinary = true := List.all_eq_true.2 fun c hc => (h c hc).1
  have hafter := after_of_isOrdinary hordinary
  refine ⟨?_, ?_, ?_, hafter, by rw [hafter]; rfl⟩
  · have htighten := tighten_append_of_isOrdinary hordinary ""
    have hempty : tighten "" = "" := rfl
    rwa [hempty, String.append_empty] at htighten
  · have hloosen := loosen_append_of_isOrdinary hordinary ""
    have hempty : loosen "" = "" := rfl
    rwa [hempty, String.append_empty] at hloosen
  · rw [bare, write_of_isOrdinary hordinary fun _ _ => rfl]
    exact List.all_eq_true.2 fun c hc => (h c hc).2

theorem ordinary_visible_of_isNumeric {c : Char} (h : isNumeric c = true) :
    (isOrdinary c && isVisible c) = true := by
  rw [isNumeric, Bool.or_eq_true, Char.isDigit_iff_toNat, List.contains_iff_mem] at h
  obtain ⟨hlow, hhigh⟩ | h := h
  · change 48 ≤ c.toNat at hlow
    change c.toNat ≤ 57 at hhigh
    have hne (d : Char) (hd : d.toNat < 48 ∨ 57 < d.toNat) : c ≠ d := by
      rintro rfl
      omega
    simp only [isOrdinary, isVisible, Bool.and_eq_true, bne_iff_ne, decide_eq_true_eq]
    exact ⟨⟨⟨hne _ (by decide), hne _ (by decide)⟩, hne _ (by decide)⟩, by omega, by omega⟩
  · have hmarks : (numericMarks.all fun c => isOrdinary c && isVisible c) = true := by decide
    exact List.all_eq_true.1 hmarks c h

theorem loosens_numeral {x : String} (h : Numeric x) : Loosens x x :=
  loosens_self <| List.all_eq_true.2 fun c hc =>
    ordinary_visible_of_isNumeric (List.all_eq_true.1 h c hc)

theorem loosens_comma : Loosens ", " "," := by
  constructor <;> decide

theorem loosens_colon : Loosens ": " ":" := by
  constructor <;> decide

/-! ## String literals -/

/-- What may stand between the quotation marks of a literal. -/
inductive IsBody : List Char → Prop where
  | nil : IsBody []
  | plain {c : Char} {cs : List Char} (hc : c ≠ '"' ∧ c ≠ '\\') (h : IsBody cs) : IsBody (c :: cs)
  | escape {c : Char} {cs : List Char} (h : IsBody cs) : IsBody ('\\' :: c :: cs)

namespace IsBody

variable {cs ds : List Char}

theorem append (h : IsBody cs) (h' : IsBody ds) : IsBody (cs ++ ds) := by
  induction h with
  | nil => exact h'
  | plain hc _ ih => exact .plain hc ih
  | escape _ ih => exact .escape ih

theorem after (h : IsBody cs) : inside.after cs = inside := by
  induction h with
  | nil => rfl
  | plain hc _ ih =>
    rw [Scan.after, List.foldl_cons, next, if_neg hc.1, if_neg hc.2]
    exact ih
  | escape _ ih => exact ih

/-- Inside a literal, what is written for a character does not depend on where exactly. -/
theorem write {f : Scan → Char → List Char} {g : Char → List Char} (h : IsBody cs)
    (hf : ∀ s c, s.inLiteral = true → (s.next c).inLiteral = true → f s c = g c) :
    Scan.write f inside cs = cs.flatMap g := by
  induction h with
  | nil => rfl
  | @plain c cs hc _ ih =>
    have hnext : inside.next c = inside := by rw [next, if_neg hc.1, if_neg hc.2]
    rw [Scan.write, hnext, ih, hf inside c rfl (by rw [hnext]; rfl), List.flatMap_cons]
  | @escape c cs _ ih =>
    have hnext : inside.next '\\' = escaped := rfl
    have hnext' : escaped.next c = inside := rfl
    rw [Scan.write, Scan.write, hnext, hnext', ih, hf inside '\\' rfl rfl, hf escaped c rfl rfl,
      List.flatMap_cons, List.flatMap_cons]

end IsBody

theorem isBody_jsonEscape (c : Char) : IsBody (jsonEscape c) := by
  have hdigit : ∀ n < 16, hexDigit n ≠ '"' ∧ hexDigit n ≠ '\\' := by decide
  fun_cases jsonEscape c with
  | case8 =>
    exact .escape <| .plain (by decide) <| .plain (by decide) <| .plain (hdigit _ (by omega)) <|
      .plain (hdigit _ (Nat.mod_lt _ (by decide))) .nil
  | case9 hq hb => exact .plain ⟨hq, hb⟩ .nil
  | _ => exact .escape .nil

theorem isBody_flatMap_jsonEscape (cs : List Char) : IsBody (cs.flatMap jsonEscape) := by
  induction cs with
  | nil => exact .nil
  | cons c cs ih => exact (isBody_jsonEscape c).append ih

theorem toList_jsonQuoted (t : String) :
    (jsonQuoted t).toList = ['"'] ++ (t.toList.flatMap jsonEscape ++ ['"']) :=
  String.toList_ofList

theorem after_jsonQuoted (t : String) : outside.after (jsonQuoted t).toList = outside := by
  rw [toList_jsonQuoted, after_append, after_append]
  exact congrArg (Scan.after · ['"']) (isBody_flatMap_jsonEscape t.toList).after

theorem write_jsonQuoted {f : Scan → Char → List Char} {g : Char → List Char} (t : String)
    (hf : ∀ s c, s.inLiteral = true → (s.next c).inLiteral = true → f s c = g c) :
    write f outside (jsonQuoted t).toList =
      f outside '"' ++ ((t.toList.flatMap jsonEscape).flatMap g ++ f inside '"') := by
  have hbody := isBody_flatMap_jsonEscape t.toList
  have hopen : outside.after ['"'] = inside := rfl
  rw [toList_jsonQuoted, write_append, hopen, write_append, hbody.after, hbody.write hf,
    write, write, write, write, List.append_nil, List.append_nil]

/-- A literal has no separators, whatever its text is. -/
theorem loosens_jsonQuoted (t : String) : Loosens (jsonQuoted t) (jsonQuoted t) where
  tighten_eq := by
    have h : ∀ s c, s.inLiteral = true → (s.next c).inLiteral = true → tightened s c = [c] := by
      intro s c hs _
      exact if_neg fun hc => by rw [hc.1] at hs; cases hs
    rw [tighten, write_jsonQuoted t h, List.flatMap_singleton']
    rfl
  loosen_eq := by
    have h : ∀ s c, s.inLiteral = true → (s.next c).inLiteral = true → loosened s c = [c] := by
      intro s c _ hs
      exact if_neg fun hc => by rw [hc] at hs; cases hs
    rw [loosen, write_jsonQuoted t h, List.flatMap_singleton']
    rfl
  visible := by
    have h : ∀ s c, s.inLiteral = true → (s.next c).inLiteral = true → bared s c = [] :=
      fun s c hs _ => if_pos hs
    rw [bare, write_jsonQuoted t h, List.flatMap_eq_nil_iff.2 fun _ _ => rfl]
    decide
  closed := after_jsonQuoted t
  closed' := by rw [after_jsonQuoted]; rfl

end DocumentDb.Text
