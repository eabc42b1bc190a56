import DocumentDb.Accessors.Renaming
import Mathlib.Data.List.SplitBy

/-!
# Names that renaming keeps apart

A renaming rule goes through a name character by character and remembers only whether a word begins.
For names in snake case it can also be told word by word, and then the words are found again in what
comes of them.

**Names in snake case** (`SnakeName`). One or more words with single underscores between them. A
word (`Word`) is a small letter, and small letters and digits behind it.

**Word by word** (`RenamingRule.applyChars_chars`). A rule spells each word on its own, as it is,
capitalised or in capitals (`RenamingRule.spell`), and puts its separator between them if it has one
(`RenamingRule.join`).

**Reading back** (`RenamingRule.readWords_applyChars`). A separator occurs in no word, so a changed
name is split where it stands. Where there is none, the words behind the first begin with capitals
and hold no others, so a word goes from one capital to the next. In small letters the pieces are the
words of the name.

**Theorem (`renaming_keeps_names_apart`).** No rule gives two names in snake case the same changed
name, and a changed name consists of the words as the rule spells them.
-/

namespace DocumentDb.Accessors

/-! ## Words and names -/

/-- Whether a character can stand behind the first one of a word. -/
def isWordChar (c : Char) : Bool :=
  c.isLower || c.isDigit

/-- A small letter, and small letters and digits behind it. -/
structure Word where
  initial : Char
  rest : List Char
  isLower_initial : initial.isLower = true := by decide
  isWordChar_rest : rest.all isWordChar = true := by decide

namespace Word

/-- The characters of a word. -/
def chars (w : Word) : List Char :=
  w.initial :: w.rest

/-- A word beginning with a capital. -/
def capitalized (w : Word) : List Char :=
  w.initial.toUpper :: w.rest

/-- A word in capitals. -/
def capitals (w : Word) : List Char :=
  w.chars.map Char.toUpper

end Word

/-- One or more words with single underscores between them. -/
structure SnakeName where
  first : Word
  others : List Word

namespace SnakeName

/-- The characters of each word. -/
def words (n : SnakeName) : List (List Char) :=
  (n.first :: n.others).map Word.chars

/-- The characters of a name. -/
def chars (n : SnakeName) : List Char :=
  ['_'].intercalate n.words

/-- The text of a name. -/
def text (n : SnakeName) : String :=
  String.ofList n.chars

end SnakeName

/-! ## Changed names -/

namespace RenamingRule

/-- How a word is spelled. The flag tells whether it is the first one. -/
def spell (r : RenamingRule) (isFirst : Bool) (w : Word) : List Char :=
  match r with
  | lower | snake | kebab => w.chars
  | upper | screamingSnake | screamingKebab => w.capitals
  | pascal => w.capitalized
  | camel => if isFirst then w.chars else w.capitalized

/-- The words of a name as they are spelled. -/
def spelled (r : RenamingRule) (n : SnakeName) : List (List Char) :=
  r.spell true n.first :: n.others.map (r.spell false)

/-- What stands between the words of a changed name. -/
def separator : RenamingRule → Option Char
  | lower | upper | snake | screamingSnake => some '_'
  | kebab | screamingKebab => some '-'
  | pascal | camel => none

/-- Words with the separator between them. -/
def join (r : RenamingRule) (ws : List (List Char)) : List Char :=
  match r.separator with
  | some c => [c].intercalate ws
  | none => ws.flatten

/-- Pieces that were joined: from one separator to the next or else from one capital to the next. -/
def pieces (r : RenamingRule) (cs : List Char) : List (List Char) :=
  match r.separator with
  | some c => cs.splitOn c
  | none => cs.splitBy fun _ c => !c.isUpper

/-- The pieces of a changed name in small letters. -/
def readWords (r : RenamingRule) (cs : List Char) : List (List Char) :=
  (r.pieces cs).map (·.map Char.toLower)

end RenamingRule

/-! ## Characters of words -/

/-- What the digits and the small letters pass, all characters of words pass. -/
theorem of_isWordChar {p : Char → Bool} {c : Char}
    (hd : (List.range 10).all (fun i => p (Char.ofNat ('0'.toNat + i))) = true)
    (hl : (List.range 26).all (fun i => p (Char.ofNat ('a'.toNat + i))) = true)
    (h : isWordChar c = true) : p c = true := by
  have hrange {m n : Nat} (ha : (List.range n).all (fun i => p (Char.ofNat (m + i))) = true)
      (hm : m ≤ c.toNat) (hn : c.toNat < m + n) : p c = true := by
    obtain ⟨i, hi⟩ := Nat.exists_eq_add_of_le hm
    rw [← c.ofNat_toNat, hi]
    exact List.all_eq_true.1 ha i (List.mem_range.2 (by omega))
  rcases Bool.or_eq_true_iff.1 h with h | h
  · obtain ⟨ha, hz⟩ := Bool.and_eq_true_iff.1 h
    exact hrange hl (of_decide_eq_true ha) (Nat.lt_succ_of_le (of_decide_eq_true hz))
  · obtain ⟨h0, h9⟩ := Char.isDigit_iff_toNat.1 h
    exact hrange hd h0 (Nat.lt_succ_of_le h9)

section Characters

variable {c : Char}

theorem isUpper_eq_false_of_isWordChar (h : isWordChar c = true) : c.isUpper = false :=
  of_decide_eq_true (of_isWordChar (p := fun c => decide (c.isUpper = false)) (by decide)
    (by decide) h)

theorem toLower_of_isWordChar (h : isWordChar c = true) : c.toLower = c :=
  of_decide_eq_true (of_isWordChar (p := fun c => decide (c.toLower = c)) (by decide) (by decide) h)

theorem toLower_toUpper_of_isWordChar (h : isWordChar c = true) : c.toUpper.toLower = c :=
  of_decide_eq_true (of_isWordChar (p := fun c => decide (c.toUpper.toLower = c)) (by decide)
    (by decide) h)

theorem isWordChar_of_isLower (h : c.isLower = true) : isWordChar c = true :=
  Bool.or_eq_true_iff.2 (.inl h)

theorem isUpper_toUpper_of_isLower (h : c.isLower = true) : c.toUpper.isUpper = true := by
  have hp := of_isWordChar (p := fun c => !c.isLower || c.toUpper.isUpper) (by decide) (by decide)
    (isWordChar_of_isLower h)
  rwa [h] at hp

end Characters

namespace Word

variable (w : Word)

theorem isUpper_eq_false_of_mem_rest {c : Char} (h : c ∈ w.rest) : c.isUpper = false :=
  isUpper_eq_false_of_isWordChar (List.all_eq_true.1 w.isWordChar_rest c h)

theorem isWordChar_of_mem {c : Char} (h : c ∈ w.chars) : isWordChar c = true := by
  rcases List.mem_cons.1 h with rfl | h
  · exact isWordChar_of_isLower w.isLower_initial
  · exact List.all_eq_true.1 w.isWordChar_rest c h

/-! ### Spellings -/

theorem map_toLower_chars : w.chars.map Char.toLower = w.chars :=
  (List.map_congr_left fun _ h => toLower_of_isWordChar (w.isWordChar_of_mem h)).trans
    (List.map_id _)

theorem map_toLower_capitals : w.capitals.map Char.toLower = w.chars := by
  rw [capitals, List.map_map]
  exact (List.map_congr_left fun _ h =>
    toLower_toUpper_of_isWordChar (w.isWordChar_of_mem h)).trans (List.map_id _)

theorem map_toLower_capitalized : w.capitalized.map Char.toLower = w.chars :=
  congrArg₂ List.cons
    (toLower_toUpper_of_isWordChar (isWordChar_of_isLower w.isLower_initial))
    (List.cons.inj w.map_toLower_chars).2

/-- What is no character of words in small letters either does not occur in a word, however it is
spelled. -/
theorem not_mem_of_map_toLower {cs : List Char} (h : cs.map Char.toLower = w.chars) {c : Char}
    (hc : isWordChar c.toLower = false) : c ∉ cs := by
  intro hm
  have hw := w.isWordChar_of_mem (h ▸ List.mem_map_of_mem hm)
  rw [hc] at hw
  cases hw

end Word

/-! ## Lists -/

theorem map_intercalate {α β : Type} (f : α → β) (as : List α) (bs : List (List α)) :
    (as.intercalate bs).map f = (as.map f).intercalate (bs.map (·.map f)) := by
  induction bs with
  | nil => rfl
  | cons b bs ih =>
    cases bs with
    | nil => simp
    | cons b' bs => simpa using ih

/-- A list is a chain if each of its elements is related to all but the first of them. -/
theorem isChain_cons_of_forall {α : Type} {R : α → α → Prop} {a : α} {as : List α}
    (h : ∀ x ∈ a :: as, ∀ y ∈ as, R x y) : (a :: as).IsChain R :=
  (List.pairwise_cons.2 ⟨h a List.mem_cons_self, List.pairwise_of_forall_mem_list fun x hx =>
    h x (List.mem_cons_of_mem a hx)⟩).isChain

/-! ## Hyphens -/

theorem hyphenate_of_not_mem {cs : List Char} (h : '_' ∉ cs) : hyphenate cs = cs := by
  refine (List.map_congr_left fun c hc => ?_).trans (List.map_id _)
  exact if_neg (ne_of_mem_of_not_mem hc h)

/-- Underscores between words become hyphens, however the words are spelled. -/
theorem hyphenate_intercalate {f : Word → List Char}
    (hf : ∀ w, (f w).map Char.toLower = w.chars) (ws : List Word) :
    hyphenate (['_'].intercalate (ws.map f)) = ['-'].intercalate (ws.map f) := by
  have hws : (ws.map f).map hyphenate = ws.map f := by
    rw [List.map_map]
    exact List.map_congr_left fun w _ =>
      hyphenate_of_not_mem (w.not_mem_of_map_toLower (hf w) (by decide))
  calc hyphenate (['_'].intercalate (ws.map f))
      = ['-'].intercalate ((ws.map f).map hyphenate) := map_intercalate _ _ _
    _ = ['-'].intercalate (ws.map f) := by rw [hws]

/-! ## Capitals -/

/-- Within a word nothing changes. -/
theorem capitalizeWords_append {cs : List Char} (h : '_' ∉ cs) (ds : List Char) :
    capitalizeWords false (cs ++ ds) = cs ++ capitalizeWords false ds := by
  induction cs with
  | nil => rfl
  | cons c cs ih =>
    rw [List.mem_cons, not_or] at h
    simp [capitalizeWords, Ne.symm h.1, ih h.2]

theorem capitalizeWords_chars_append (w : Word) (ds : List Char) :
    capitalizeWords true (w.chars ++ ds) = w.capitalized ++ capitalizeWords false ds := by
  have h : '_' ∉ w.chars := w.not_mem_of_map_toLower w.map_toLower_chars (by decide)
  rw [Word.chars, List.mem_cons, not_or] at h
  simp [Word.chars, Word.capitalized, capitalizeWords, Ne.symm h.1, capitalizeWords_append h.2]

/-- A word begins behind each underscore, so the words are capitalised one by one. -/
theorem capitalizeWords_intercalate (ws : List Word) :
    capitalizeWords true (['_'].intercalate (ws.map Word.chars)) =
      (ws.map Word.capitalized).flatten := by
  induction ws with
  | nil => rfl
  | cons w ws ih =>
    cases ws with
    | nil => simpa [capitalizeWords] using capitalizeWords_chars_append w []
    | cons v ws =>
      calc capitalizeWords true (['_'].intercalate ((w :: v :: ws).map Word.chars))
          = capitalizeWords true
              (w.chars ++ '_' :: ['_'].intercalate ((v :: ws).map Word.chars)) := by simp
        _ = w.capitalized ++
              capitalizeWords true (['_'].intercalate ((v :: ws).map Word.chars)) := by
            rw [capitalizeWords_chars_append, capitalizeWords, if_pos rfl]
        _ = ((w :: v :: ws).map Word.capitalized).flatten := congrArg (w.capitalized ++ ·) ih

theorem decapitalize_capitalized_append (w : Word) (ds : List Char) :
    decapitalize (w.capitalized ++ ds) = w.chars ++ ds := by
  have h := (List.cons.inj w.map_toLower_capitalized).1
  rw [Word.capitalized, List.cons_append, decapitalize, h, Word.chars, List.cons_append]

theorem map_toUpper_chars (n : SnakeName) :
    n.chars.map Char.toUpper = ['_'].intercalate ((n.first :: n.others).map Word.capitals) := by
  rw [SnakeName.chars, map_intercalate, SnakeName.words, List.map_map]
  rfl

namespace RenamingRule

/-! ## Word by word -/

/-- A rule changes a name word by word. -/
theorem applyChars_chars (r : RenamingRule) (n : SnakeName) :
    r.applyChars n.chars = r.join (r.spelled n) := by
  cases r with
  | lower | snake => rfl
  | upper | screamingSnake => exact map_toUpper_chars n
  | pascal => exact capitalizeWords_intercalate _
  | camel =>
    show decapitalize (capitalizeWords true n.chars) = _
    rw [SnakeName.chars, SnakeName.words, capitalizeWords_intercalate]
    exact decapitalize_capitalized_append _ _
  | kebab => exact hyphenate_intercalate Word.map_toLower_chars _
  | screamingKebab =>
    show hyphenate (n.chars.map Char.toUpper) = _
    rw [map_toUpper_chars]
    exact hyphenate_intercalate Word.map_toLower_capitals _

/-! ## Reading back -/

theorem map_toLower_spell (r : RenamingRule) (isFirst : Bool) (w : Word) :
    (r.spell isFirst w).map Char.toLower = w.chars := by
  cases r with
  | lower | snake | kebab => exact w.map_toLower_chars
  | upper | screamingSnake | screamingKebab => exact w.map_toLower_capitals
  | pascal => exact w.map_toLower_capitalized
  | camel =>
    cases isFirst with
    | true => exact w.map_toLower_chars
    | false => exact w.map_toLower_capitalized

theorem map_toLower_spelled (r : RenamingRule) (n : SnakeName) :
    (r.spelled n).map (·.map Char.toLower) = n.words := by
  simp [spelled, SnakeName.words, map_toLower_spell, Function.comp_def]

theorem exists_spell_eq_of_mem (r : RenamingRule) {n : SnakeName} {cs : List Char}
    (h : cs ∈ r.spelled n) : ∃ isFirst w, r.spell isFirst w = cs := by
  rcases List.mem_cons.1 h with rfl | h
  · exact ⟨_, _, rfl⟩
  · obtain ⟨w, -, rfl⟩ := List.mem_map.1 h
    exact ⟨_, _, rfl⟩

/-- A separator occurs in no word. -/
theorem separator_not_mem {r : RenamingRule} {c : Char} (hr : r.separator = some c)
    {n : SnakeName} {cs : List Char} (h : cs ∈ r.spelled n) : c ∉ cs := by
  obtain ⟨isFirst, w, rfl⟩ := r.exists_spell_eq_of_mem h
  refine w.not_mem_of_map_toLower (r.map_toLower_spell isFirst w) ?_
  cases r <;> cases hr <;> decide

section Capitals

variable {r : RenamingRule} (hr : r.separator = none)
include hr

/-- Without a separator only the first character of a word can be a capital. -/
theorem exists_spell_eq_cons (isFirst : Bool) (w : Word) :
    ∃ c, r.spell isFirst w = c :: w.rest := by
  cases r with
  | lower | upper | snake | screamingSnake | kebab | screamingKebab => cases hr
  | pascal => exact ⟨_, rfl⟩
  | camel => cases isFirst <;> exact ⟨_, rfl⟩

/-- Without a separator each further word begins with a capital. -/
theorem spell_false_of_separator_eq_none (w : Word) : r.spell false w = w.capitalized := by
  cases r with
  | lower | upper | snake | screamingSnake | kebab | screamingKebab => cases hr
  | pascal | camel => rfl

theorem exists_eq_cons_of_mem {n : SnakeName} {cs : List Char} (h : cs ∈ r.spelled n) :
    ∃ c ds, cs = c :: ds ∧ ∀ d ∈ ds, d.isUpper = false := by
  obtain ⟨isFirst, w, rfl⟩ := r.exists_spell_eq_of_mem h
  obtain ⟨c, hc⟩ := exists_spell_eq_cons hr isFirst w
  exact ⟨c, w.rest, hc, fun d hd => w.isUpper_eq_false_of_mem_rest hd⟩

end Capitals

theorem pieces_join (r : RenamingRule) (n : SnakeName) :
    r.pieces (r.join (r.spelled n)) = r.spelled n := by
  cases hr : r.separator with
  | some c =>
    simp only [pieces, join, hr]
    exact List.splitOn_intercalate c (fun cs h => separator_not_mem hr h) (List.cons_ne_nil _ _)
  | none =>
    simp only [pieces, join, hr]
    refine List.splitBy_flatten (fun h => ?_) (fun cs h => ?_)
      (isChain_cons_of_forall fun as ha bs hb => ?_)
    · -- No word is empty.
      obtain ⟨c, ds, he, -⟩ := exists_eq_cons_of_mem hr h
      cases he
    · -- Within a word no capital follows.
      obtain ⟨c, ds, rfl, hds⟩ := exists_eq_cons_of_mem hr h
      exact isChain_cons_of_forall fun _ _ d hd => by simp [hds d hd]
    · -- Each further word begins with one.
      obtain ⟨c, ds, rfl, -⟩ := exists_eq_cons_of_mem hr ha
      obtain ⟨w, -, rfl⟩ := List.mem_map.1 hb
      rw [spell_false_of_separator_eq_none hr]
      exact ⟨List.cons_ne_nil _ _, List.cons_ne_nil _ _,
        congrArg (!·) (isUpper_toUpper_of_isLower w.isLower_initial)⟩

/-- The words of a name are found again when it has been changed. -/
theorem readWords_applyChars (r : RenamingRule) (n : SnakeName) :
    r.readWords (r.applyChars n.chars) = n.words := by
  rw [readWords, applyChars_chars, pieces_join, map_toLower_spelled]

theorem apply_text (r : RenamingRule) (n : SnakeName) :
    r.apply n.text = String.ofList (r.applyChars n.chars) := by
  rw [apply, SnakeName.text, String.toList_ofList]

end RenamingRule

/-! ## Main result -/

/-- **Names that renaming keeps apart.** No rule gives two different names in snake case the same
changed name. The changed name is made of the words of the name, each of them spelled as the rule
spells it and with the separator of the rule between them. -/
theorem renaming_keeps_names_apart (r : RenamingRule) (m n : SnakeName) :
    (m.text ≠ n.text → r.apply m.text ≠ r.apply n.text) ∧
    r.apply m.text = String.ofList (r.join (r.spelled m)) := by
  constructor
  · intro hne h
    rw [r.apply_text, r.apply_text, String.ofList_inj] at h
    have hwords : m.words = n.words := by
      rw [← r.readWords_applyChars m, ← r.readWords_applyChars n, h]
    exact hne (by rw [SnakeName.text, SnakeName.text, SnakeName.chars, SnakeName.chars, hwords])
  · rw [r.apply_text, r.applyChars_chars]

/-- The same letters in two words and in one. -/
theorem renaming_keeps_names_apart_in_camel_case :
    let m : SnakeName := ⟨{ initial := 'l', rest := ['i', 'n', 'e', '1'] },
      [{ initial := 'a', rest := [] }]⟩
    let n : SnakeName := ⟨{ initial := 'l', rest := ['i', 'n', 'e', '1', 'a'] }, []⟩
    m.text = "line1_a" ∧ n.text = "line1a" ∧ m.text ≠ n.text ∧
    RenamingRule.camel.apply m.text ≠ RenamingRule.camel.apply n.text ∧
    RenamingRule.camel.apply m.text = "line1A" := by
  intro m n
  have hne : m.text ≠ n.text := by decide
  obtain ⟨happart, hspelled⟩ := renaming_keeps_names_apart .camel m n
  exact ⟨by decide, by decide, hne, happart hne, hspelled.trans (by decide)⟩

/-- A word that begins with a digit is not told from the end of the word before it. -/
example : RenamingRule.camel.apply "line_1" = RenamingRule.camel.apply "line1" := by
  decide

end DocumentDb.Accessors
