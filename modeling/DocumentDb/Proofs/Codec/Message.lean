import DocumentDb.Codec.Decode
import DocumentDb.Proofs.Text.Numeral
import DocumentDb.Proofs.Value.Path
import Mathlib.Data.List.Infix
import Mathlib.Data.List.TakeWhile

/-!
# What messages say of missing fields

The error for a value that does not decode names a field. The name is the path of the failure, with
the name of the missing field behind it if the message has the words for one. But messages quote
what was found, so these words may come from the data.

**Speaking of a missing field** (`SpeaksOfMissing`). A text has the words for a missing field and a
backquote behind them. The words around a quoted text do not add to what it says, and neither does
the quoting: no escape has a character with which the words could begin or end. So a message about
a value of the wrong kind speaks of a missing field exactly if the value is a text that does
(`DecodeFault.speaksOfMissing_wrongKind`), and one about an integer out of range never does.

**Theorem (`DecodeFailure.decodeField_error_iff`).** The error for a failure names the place at
fault exactly if the failure is clear (`DecodeFailure.Clear`).
-/

namespace DocumentDb

/-! ## The first occurrence of a text -/

section SplitOnce

variable {c : Char} {part before rest cs : List Char}

/-- A text is not found where its first character is not. -/
theorem splitOnce_append_of_not_mem (h : c ∉ before) (rest : List Char) :
    splitOnce (c :: part) (before ++ rest) =
      (splitOnce (c :: part) rest).map fun r => (before ++ r.1, r.2) := by
  induction before with
  | nil => simp
  | cons x before ih =>
    rw [List.mem_cons, not_or] at h
    rw [List.cons_append, splitOnce, if_neg (by simp [h.1]), ih h.2, Option.map_map]
    rfl

theorem splitOnce_append (part rest : List Char) :
    splitOnce part (part ++ rest) = some ([], rest) := by
  cases part with
  | nil => cases rest <;> simp [splitOnce]
  | cons c part => simp [splitOnce]

theorem eq_append_of_splitOnce (h : splitOnce part cs = some (before, rest)) :
    cs = before ++ (part ++ rest) := by
  induction cs generalizing before with
  | nil =>
    rw [splitOnce] at h
    split at h
    · next hp => cases h; simpa using hp
    · cases h
  | cons x cs ih =>
    rw [splitOnce] at h
    split at h
    · next hp =>
      cases h
      exact (List.prefix_iff_eq_append.1 (List.isPrefixOf_iff_prefix.1 hp)).symm
    · obtain ⟨r, hr, he⟩ := Option.map_eq_some_iff.1 h
      cases he
      rw [List.cons_append, ← ih hr]

/-- What follows on any occurrence of a text follows on the first one. -/
theorem exists_splitOnce_of_append (part before rest : List Char) :
    ∃ r, splitOnce part (before ++ (part ++ rest)) = some r ∧ rest <:+ r.2 := by
  induction before with
  | nil => exact ⟨_, splitOnce_append part rest, List.suffix_rfl⟩
  | cons x before ih =>
    rw [List.cons_append, splitOnce]
    split
    · refine ⟨_, rfl, ?_⟩
      have hlen : part.length ≤ (x :: before ++ part).length := by
        rw [List.length_append]
        exact Nat.le_add_left ..
      rw [← List.cons_append, ← List.append_assoc, List.drop_append_of_le_length hlen]
      exact List.suffix_append _ rest
    · obtain ⟨r, hr, hs⟩ := ih
      exact ⟨_, congrArg (Option.map _) hr, hs⟩

theorem fst_splitOnce_singleton (c : Char) (cs rest : List Char) :
    (splitOnce [c] (cs ++ c :: rest)).map Prod.fst = some (cs.takeWhile (· != c)) := by
  induction cs with
  | nil => simp [splitOnce]
  | cons x cs ih =>
    obtain ⟨r, hr, hname⟩ := Option.map_eq_some_iff.1 ih
    rw [List.cons_append, splitOnce, hr]
    by_cases hx : c = x
    · simp [hx]
    · simp [hx, Ne.symm hx, hname]

theorem splitOnce_singleton_eq_none_iff : splitOnce [c] cs = none ↔ c ∉ cs := by
  constructor
  · intro h hc
    obtain ⟨before, rest, rfl⟩ := List.append_of_mem hc
    have hname := fst_splitOnce_singleton c before rest
    rw [h] at hname
    cases hname
  · intro h
    rw [← List.append_nil cs, splitOnce_append_of_not_mem h]
    rfl

end SplitOnce

/-! ## Speaking of a missing field -/

/-- What messages put before the name of a missing field. -/
def missingPhrase : List Char := "missing field `".toList

/-- A text has the words for a missing field in it, and the end of a name after them. -/
def SpeaksOfMissing (cs : List Char) : Prop :=
  ∃ before rest, cs = before ++ (missingPhrase ++ rest) ∧ '`' ∈ rest

theorem missingPhrase_eq_cons : missingPhrase = 'm' :: missingPhrase.tail := by decide

section Speaks

variable {before after cs : List Char}

theorem speaksOfMissing_iff_splitOnce :
    SpeaksOfMissing cs ↔ ∃ r, splitOnce missingPhrase cs = some r ∧ '`' ∈ r.2 := by
  constructor
  · rintro ⟨before, rest, rfl, hm⟩
    obtain ⟨r, hr, hs⟩ := exists_splitOnce_of_append missingPhrase before rest
    exact ⟨r, hr, hs.subset hm⟩
  · rintro ⟨⟨before, rest⟩, hr, hm⟩
    exact ⟨before, rest, eq_append_of_splitOnce hr, hm⟩

theorem speaksOfMissing_append_left (h : 'm' ∉ before) :
    SpeaksOfMissing (before ++ cs) ↔ SpeaksOfMissing cs := by
  simp only [speaksOfMissing_iff_splitOnce]
  rw [missingPhrase_eq_cons, splitOnce_append_of_not_mem h]
  cases splitOnce ('m' :: missingPhrase.tail) cs <;> simp

theorem speaksOfMissing_append_right (h : '`' ∉ after) :
    SpeaksOfMissing (cs ++ after) ↔ SpeaksOfMissing cs := by
  constructor
  · rintro ⟨before, rest, he, hm⟩
    rw [← List.append_assoc, List.append_eq_append_iff] at he
    obtain ⟨t, -, hafter⟩ | ⟨t, hcs, hrest⟩ := he
    · exact (h (hafter ▸ List.mem_append_right t hm)).elim
    · rw [hrest, List.mem_append] at hm
      exact ⟨before, t, by rw [hcs, List.append_assoc], hm.resolve_right h⟩
  · rintro ⟨before, rest, rfl, hm⟩
    exact ⟨before, rest ++ after, by simp, List.mem_append_left after hm⟩

theorem speaksOfMissing_cons {x : Char} :
    SpeaksOfMissing (x :: cs) ↔
      (∃ rest, x :: cs = missingPhrase ++ rest ∧ '`' ∈ rest) ∨ SpeaksOfMissing cs := by
  constructor
  · rintro ⟨before, rest, he, hm⟩
    cases before with
    | nil => exact .inl ⟨rest, he, hm⟩
    | cons y before =>
      rw [List.cons_append, List.cons.injEq] at he
      exact .inr ⟨before, rest, he.2, hm⟩
  · rintro (⟨rest, he, hm⟩ | ⟨before, rest, he, hm⟩)
    · exact ⟨[], rest, he, hm⟩
    · exact ⟨x :: before, rest, by rw [he, List.cons_append], hm⟩

end Speaks

/-! ## Quoted texts -/

/-- A character that is no digit is in no numeral. -/
theorem not_mem_toDigits {b : Nat} {c : Char} (hb : 1 < b) (hc : ∀ k < b, c ≠ k.digitChar)
    (n : Nat) : c ∉ Nat.toDigits b n := by
  induction n using Nat.strongRecOn with
  | ind n ih =>
    rw [Nat.toDigits_eq_if hb]
    split
    · next hn => exact fun h => hc n hn (List.mem_singleton.1 h)
    · rw [List.mem_append, not_or]
      exact ⟨ih (n / b) (Nat.div_lt_self (by omega) hb),
        fun h => hc (n % b) (Nat.mod_lt n (by omega)) (List.mem_singleton.1 h)⟩

namespace Text

theorem not_mem_hexOfNat (n : Nat) : 'm' ∉ (hexOfNat n).toList ∧ '`' ∉ (hexOfNat n).toList := by
  rw [hexOfNat, String.toList_ofList]
  exact ⟨not_mem_toDigits (by decide) (by decide) n, not_mem_toDigits (by decide) (by decide) n⟩

theorem inRanges_eq_false {ranges : List (Nat × Nat)} {low high : Nat} {c : Char}
    (h : ∀ r ∈ ranges, r.2 < low ∨ high < r.1) (hl : low ≤ c.toNat) (hh : c.toNat ≤ high) :
    inRanges ranges c = false := by
  rw [inRanges, List.any_eq_false]
  intro r hr
  have := h r hr
  simp only [decide_eq_true_eq]
  omega

theorem isInvisible_eq_false {c : Char} (hl : 0x20 ≤ c.toNat) (hh : c.toNat ≤ 0x7e) :
    isInvisible c = false := by
  have hblank : ∀ r ∈ blankRanges, r.2 < 0x20 ∨ 0x7e < r.1 := by decide +kernel
  have hextending : ∀ r ∈ extendingRanges, r.2 < 0x20 ∨ 0x7e < r.1 := by decide +kernel
  rw [isInvisible, inRanges_eq_false hblank hl hh, isExtending,
    inRanges_eq_false hextending hl hh]
  rfl

/-- Whether a character is a printable one of ASCII and neither the quotation mark nor the
backslash. -/
def isPlain (c : Char) : Bool :=
  decide (0x20 ≤ c.toNat ∧ c.toNat ≤ 0x7e) && c != '"' && c != '\\'

theorem plainEscape_of_isPlain {c : Char} (h : isPlain c = true) : plainEscape c = [c] := by
  simp only [isPlain, Bool.and_eq_true, decide_eq_true_eq, bne_iff_ne] at h
  obtain ⟨⟨⟨hl, hh⟩, hquote⟩, hbackslash⟩ := h
  fun_cases plainEscape c with
  | case8 => rfl
  | case7 _ _ _ _ _ _ hi =>
    rw [isInvisible_eq_false hl hh] at hi
    cases hi
  | case6 _ _ _ _ _ h0 => omega
  | case1 | case2 => contradiction
  | case3 _ _ hc | case4 _ _ _ hc | case5 _ _ _ _ hc => exact absurd (hc ▸ hl) (by decide)

theorem flatMap_plainEscape_of_isPlain {cs : List Char} (h : cs.all isPlain = true) :
    cs.flatMap plainEscape = cs := by
  induction cs with
  | nil => rfl
  | cons c cs ih =>
    rw [List.all_cons, Bool.and_eq_true] at h
    rw [List.flatMap_cons, plainEscape_of_isPlain h.1, ih h.2, List.singleton_append]

/-- In a quoted text a character stands for itself, or it is not in the words for a missing field
and becomes an escape: a backslash, and nothing that could begin those words or end a name. -/
theorem plainEscape_cases (c : Char) :
    plainEscape c = [c] ∨
      ∃ t, plainEscape c = '\\' :: t ∧ 'm' ∉ plainEscape c ∧ '`' ∉ plainEscape c := by
  fun_cases plainEscape c with
  | case8 => exact .inl rfl
  | case7 =>
    obtain ⟨hm, hq⟩ := not_mem_hexOfNat c.toNat
    exact .inr ⟨_, rfl, by simp [hm], by simp [hq]⟩
  | _ => exact .inr ⟨_, rfl, by decide, by decide⟩

theorem mem_flatMap_plainEscape {cs : List Char} :
    '`' ∈ cs.flatMap plainEscape ↔ '`' ∈ cs := by
  have hq : plainEscape '`' = ['`'] := plainEscape_of_isPlain (by decide)
  rw [List.mem_flatMap]
  constructor
  · rintro ⟨c, hc, hm⟩
    obtain he | ⟨-, -, -, hn⟩ := plainEscape_cases c
    · rw [he, List.mem_singleton] at hm
      exact hm ▸ hc
    · exact (hn hm).elim
  · exact fun h => ⟨'`', h, hq ▸ List.mem_singleton_self _⟩

/-- Where a text stands in front in a quoted one that is not escaped, it stands in front in the
original. -/
theorem append_of_flatMap_plainEscape {part cs rest : List Char} (hb : '\\' ∉ part)
    (h : cs.flatMap plainEscape = part ++ rest) :
    ∃ r, cs = part ++ r ∧ rest = r.flatMap plainEscape := by
  induction part generalizing cs with
  | nil => exact ⟨cs, rfl, h.symm⟩
  | cons x part ih =>
    rw [List.mem_cons, not_or] at hb
    cases cs with
    | nil => cases h
    | cons c cs =>
      rw [List.flatMap_cons, List.cons_append] at h
      obtain he | ⟨t, he, -⟩ := plainEscape_cases c
      · rw [he, List.singleton_append, List.cons.injEq] at h
        obtain ⟨r, hr, hrest⟩ := ih hb.2 h.2
        exact ⟨r, by rw [h.1, hr, List.cons_append], hrest⟩
      · rw [he, List.cons_append, List.cons.injEq] at h
        exact (hb.1 h.1).elim

end Text

/-- A quoted text speaks of a missing field exactly if the text does. -/
theorem speaksOfMissing_flatMap_plainEscape {cs : List Char} :
    SpeaksOfMissing (cs.flatMap Text.plainEscape) ↔ SpeaksOfMissing cs := by
  constructor
  · intro h
    induction cs with
    | nil => exact h
    | cons c cs ih =>
      rw [speaksOfMissing_cons]
      rw [List.flatMap_cons] at h
      obtain he | ⟨t, he, hm, -⟩ := Text.plainEscape_cases c
      · rw [he, List.singleton_append, speaksOfMissing_cons] at h
        -- The words begin at this character, and then none of them is escaped, or behind it.
        obtain ⟨rest, hrest, hq⟩ | h := h
        · rw [← List.singleton_append, ← he, ← List.flatMap_cons] at hrest
          obtain ⟨r, hr, rfl⟩ := Text.append_of_flatMap_plainEscape (by decide) hrest
          exact .inl ⟨r, hr, Text.mem_flatMap_plainEscape.1 hq⟩
        · exact .inr (ih h)
      · exact .inr (ih ((speaksOfMissing_append_left hm).1 h))
  · rintro ⟨before, rest, rfl, hq⟩
    have hp : missingPhrase.flatMap Text.plainEscape = missingPhrase :=
      Text.flatMap_plainEscape_of_isPlain (by decide)
    refine ⟨before.flatMap Text.plainEscape, rest.flatMap Text.plainEscape, ?_,
      Text.mem_flatMap_plainEscape.2 hq⟩
    rw [List.flatMap_append, List.flatMap_append, hp]

/-! ## Found values -/

theorem not_speaksOfMissing_of_not_mem {cs : List Char} (h : '`' ∉ cs) : ¬ SpeaksOfMissing cs := by
  rintro ⟨before, rest, rfl, hq⟩
  exact h (by simp [hq])

/-- The words for a missing field end with a backquote, and so does the name: they do not fit into
other words with a single text in backquotes. -/
theorem not_speaksOfMissing_quoted {words text : List Char} (hw : 'm' ∉ words) (ht : '`' ∉ text) :
    ¬ SpeaksOfMissing (words ++ (text ++ ['`'])) := by
  rw [speaksOfMissing_append_left hw]
  rintro ⟨before, rest, he, hq⟩
  have hp : missingPhrase.count '`' = 1 := by decide
  have hcount := congrArg (List.count '`') he
  rw [List.count_append, List.count_append, List.count_append, hp, List.count_eq_zero.2 ht,
    List.count_singleton_self] at hcount
  have hpos := List.count_pos_iff.2 hq
  omega

section Texts

variable {words text after : String}

theorem speaksOfMissing_append_text (h : '`' ∉ after.toList) :
    SpeaksOfMissing (text ++ after).toList ↔ SpeaksOfMissing text.toList := by
  rw [String.toList_append, speaksOfMissing_append_right h]

theorem speaksOfMissing_text_append (h : 'm' ∉ words.toList) :
    SpeaksOfMissing (words ++ text).toList ↔ SpeaksOfMissing text.toList := by
  rw [String.toList_append, speaksOfMissing_append_left h]

theorem speaksOfMissing_plainQuoted (s : String) :
    SpeaksOfMissing (Text.plainQuoted s).toList ↔ SpeaksOfMissing s.toList := by
  rw [Text.plainQuoted, String.toList_ofList, List.cons_append, ← List.singleton_append,
    speaksOfMissing_append_left (by decide), speaksOfMissing_append_right (by decide),
    speaksOfMissing_flatMap_plainEscape]

theorem not_speaksOfMissing_backquoted (hw : 'm' ∉ words.toList) (ht : '`' ∉ text.toList) :
    ¬ SpeaksOfMissing (words ++ text ++ "`").toList := by
  rw [String.toList_append, String.toList_append, List.append_assoc]
  exact not_speaksOfMissing_quoted hw ht

theorem not_speaksOfMissing_numeral (hw : 'm' ∉ words.toList) (ht : Text.Numeric text) :
    ¬ SpeaksOfMissing (words ++ text ++ "`").toList :=
  not_speaksOfMissing_backquoted hw fun h => absurd (List.all_eq_true.1 ht _ h) (by decide)

end Texts

/-- Of what messages call a found value, only a quoted text can speak of a missing field. -/
theorem Value.speaksOfMissing_found {v : Value} :
    SpeaksOfMissing v.found.toList ↔ ∃ s, v = .string s ∧ SpeaksOfMissing s.toList := by
  cases v with
  | string s =>
    show SpeaksOfMissing ("string " ++ Text.plainQuoted s).toList ↔ _
    rw [speaksOfMissing_text_append (by decide), speaksOfMissing_plainQuoted]
    exact ⟨fun h => ⟨s, rfl, h⟩, fun ⟨t, ht, h⟩ => (Value.string.inj ht) ▸ h⟩
  | int32 n | int64 n =>
    exact iff_of_false (not_speaksOfMissing_numeral (by decide) (Text.numeric_toString_int _))
      fun ⟨s, hs, _⟩ => nomatch hs
  | double x =>
    exact iff_of_false (not_speaksOfMissing_numeral (by decide) (x.numeric_text _))
      fun ⟨s, hs, _⟩ => nomatch hs
  | bool b =>
    exact iff_of_false
      (not_speaksOfMissing_backquoted (by decide) (by cases b <;> decide))
      fun ⟨s, hs, _⟩ => nomatch hs
  | null =>
    exact iff_of_false
      (not_speaksOfMissing_of_not_mem (show '`' ∉ "unit value".toList by decide))
      fun ⟨s, hs, _⟩ => nomatch hs
  | array items =>
    exact iff_of_false
      (not_speaksOfMissing_of_not_mem (show '`' ∉ "sequence".toList by decide))
      fun ⟨s, hs, _⟩ => nomatch hs
  | _ =>
    exact iff_of_false (not_speaksOfMissing_of_not_mem (show '`' ∉ "map".toList by decide))
      fun ⟨s, hs, _⟩ => nomatch hs

namespace DecodeFault

theorem speaksOfMissing_wrongKind {got : Value} {wanted : String} (hw : '`' ∉ wanted.toList) :
    SpeaksOfMissing (wrongKind got wanted).detail.toList ↔
      ∃ s, got = .string s ∧ SpeaksOfMissing s.toList := by
  show SpeaksOfMissing ("invalid type: " ++ got.found ++ ", expected " ++ wanted).toList ↔ _
  rw [speaksOfMissing_append_text hw, speaksOfMissing_append_text (by decide),
    speaksOfMissing_text_append (by decide), Value.speaksOfMissing_found]

theorem not_speaksOfMissing_outOfRange {n : Int} {wanted : String} (hw : '`' ∉ wanted.toList) :
    ¬ SpeaksOfMissing (outOfRange n wanted).detail.toList := by
  have hwords : "`, expected " = "`" ++ ", expected " := by decide
  show ¬ SpeaksOfMissing
    ("invalid value: integer `" ++ toString n ++ "`, expected " ++ wanted).toList
  rw [speaksOfMissing_append_text hw, hwords, ← String.append_assoc,
    speaksOfMissing_append_text (by decide)]
  exact not_speaksOfMissing_numeral (by decide) (Text.numeric_toString_int n)

/-- What the wording of a fault says before the detail. -/
def preamble : String :=
  "BSON error. Kind: A deserialization-related error occurred. Message: "

theorem wording_eq {f : DecodeFault} (h : f ≠ noContent) :
    f.wording = preamble ++ f.detail ++ "." := by
  cases f with
  | noContent => exact (h rfl).elim
  | _ => rfl

theorem not_mem_preamble : 'm' ∉ preamble.toList := by decide

/-- The words around the detail are none for a missing field. -/
theorem speaksOfMissing_wording (f : DecodeFault) :
    SpeaksOfMissing f.wording.toList ↔ SpeaksOfMissing f.detail.toList := by
  by_cases h : f = noContent
  · subst h
    exact iff_of_false (not_speaksOfMissing_of_not_mem (by decide))
      (not_speaksOfMissing_of_not_mem (by decide))
  · rw [wording_eq h, speaksOfMissing_append_text (by decide),
      speaksOfMissing_text_append not_mem_preamble]

end DecodeFault

/-! ## The name of a missing field -/

theorem missingFieldOf?_eq (message : String) :
    missingFieldOf? message = (splitOnce missingPhrase message.toList).bind fun r =>
      ((splitOnce ['`'] r.2).map Prod.fst).map String.ofList := by
  change (splitOnce missingPhrase message.toList).bind _ = _
  congr 1
  funext r
  change (splitOnce ['`'] r.2).bind _ = _
  cases splitOnce ['`'] r.2 <;> rfl

theorem missingFieldOf?_eq_none_iff {message : String} :
    missingFieldOf? message = none ↔ ¬ SpeaksOfMissing message.toList := by
  simp only [missingFieldOf?_eq, speaksOfMissing_iff_splitOnce, Option.bind_eq_none_iff,
    Option.map_eq_none_iff, splitOnce_singleton_eq_none_iff, not_exists, not_and]

/-- A missing field is named up to the first backquote in its name. -/
theorem missingFieldOf?_missingField (name : String) :
    missingFieldOf? (DecodeFault.missingField name).wording =
      some (String.ofList (name.toList.takeWhile (· != '`'))) := by
  have hdetail : (DecodeFault.missingField name).detail.toList =
      missingPhrase ++ (name.toList ++ ['`']) := by
    show ("missing field `" ++ name ++ "`").toList = _
    rw [String.toList_append, String.toList_append, List.append_assoc]
    rfl
  have hne : DecodeFault.missingField name ≠ .noContent := fun h => nomatch h
  rw [missingFieldOf?_eq, DecodeFault.wording_eq hne, String.toList_append,
    String.toList_append, hdetail, List.append_assoc, List.append_assoc, missingPhrase_eq_cons,
    splitOnce_append_of_not_mem DecodeFault.not_mem_preamble, ← missingPhrase_eq_cons,
    splitOnce_append, Option.map_some, Option.bind_some, List.append_assoc, List.singleton_append,
    fst_splitOnce_singleton]
  rfl

/-- A name is read off the message as it is exactly if it has no backquote. -/
theorem ofList_takeWhile_eq_iff {name : String} :
    String.ofList (name.toList.takeWhile (· != '`')) = name ↔ '`' ∉ name.toList := by
  rw [← String.toList_inj, String.toList_ofList, List.takeWhile_eq_self_iff]
  simp only [bne_iff_ne, ne_eq]
  exact ⟨fun h hq => h _ hq rfl, fun h c hc he => h (he ▸ hc)⟩

/-! ## The field at fault -/

namespace DecodeFailure

/-- The way to the value at fault; to the place of the key, where one is missing. -/
def place (f : DecodeFailure) : List String :=
  match f.fault with
  | .missingField name => f.path ++ [name]
  | _ => f.path

/-- The dotted path of the place at fault, unless it is the value as a whole. -/
def placeName? (f : DecodeFailure) : Option String :=
  if f.place = [] then none else some (Path.ofSegments f.place)

/-- The message for a failure can be taken at its word: the name of a missing field has no
backquote, and no other message speaks of a missing field. The empty key alone is taken for no path;
it is named only by a message that speaks of a missing field without a name. -/
def Clear (f : DecodeFailure) : Prop :=
  match f.fault with
  | .missingField name => '`' ∉ name.toList ∧ f.path ≠ [""]
  | fault =>
    if f.path = [""] then missingFieldOf? fault.wording = some ""
    else ¬ SpeaksOfMissing fault.detail.toList

/-- What the name of a missing field in a message makes of a path. -/
theorem decodeField_decodeErrorAt (path message : String) :
    (decodeErrorAt path message).decodeField =
      match missingFieldOf? message with
      | none => if path = "" then none else some path
      | some name => some (if path = "" then name else path ++ "." ++ name) := rfl

/-- A path stays as it is exactly if the message names no missing field. -/
theorem decodeField_eq_path_iff (path : List String) (message : String) :
    (decodeErrorAt (Path.ofSegments path) message).decodeField =
        (if path = [] then none else some (Path.ofSegments path)) ↔
      missingFieldOf? message = if path = [""] then some "" else none := by
  rw [decodeField_decodeErrorAt]
  -- No segment and the empty segment alone have one path, but only the first is no place.
  by_cases hnil : path = []
  · subst hnil
    cases missingFieldOf? message <;> simp [Path.ofSegments]
  · by_cases hone : path = [""]
    · subst hone
      cases missingFieldOf? message <;> simp [Path.ofSegments]
    · have hpath : Path.ofSegments path ≠ "" := fun h =>
        (Path.ofSegments_eq_empty_iff.1 h).elim hnil hone
      rw [if_neg hnil, if_neg hone, if_neg hpath]
      cases missingFieldOf? message with
      | none => simp
      | some name => simp [hpath, Path.append_dot_append_ne]

/-- A path gets the name of a missing field exactly if the message gives this name. -/
theorem decodeField_eq_concat_iff (path : List String) {message name found : String}
    (hm : missingFieldOf? message = some found) (hlen : found.length ≤ name.length) :
    (decodeErrorAt (Path.ofSegments path) message).decodeField =
        some (Path.ofSegments (path ++ [name])) ↔ found = name ∧ path ≠ [""] := by
  rw [decodeField_decodeErrorAt, hm]
  by_cases hnil : path = []
  · subst hnil
    simp [Path.ofSegments]
  · rw [Path.ofSegments_concat hnil]
    by_cases hone : path = [""]
    · subst hone
      have hne : found ≠ "." ++ name := by
        intro h
        have hlength := congrArg String.length h
        have hdot : ".".length = 1 := rfl
        rw [String.length_append] at hlength
        omega
      simpa [Path.ofSegments] using hne
    · have hpath : Path.ofSegments path ≠ "" := fun h =>
        (Path.ofSegments_eq_empty_iff.1 h).elim hnil hone
      simp [hpath, hone]

/-- **The field that an error names** is the place at fault exactly if the failure is clear. -/
theorem decodeField_error_iff (f : DecodeFailure) :
    f.error.decodeField = f.placeName? ↔ f.Clear := by
  obtain ⟨path, fault⟩ := f
  have hother (h : place ⟨path, fault⟩ = path) :
      (error ⟨path, fault⟩).decodeField = placeName? ⟨path, fault⟩ ↔
        if path = [""] then missingFieldOf? fault.wording = some ""
        else ¬ SpeaksOfMissing fault.detail.toList := by
    rw [placeName?, h]
    refine (decodeField_eq_path_iff path fault.wording).trans ?_
    split
    · rfl
    · rw [missingFieldOf?_eq_none_iff, DecodeFault.speaksOfMissing_wording]
  cases fault with
  | missingField name =>
    have hlen : (String.ofList (name.toList.takeWhile (· != '`'))).length ≤ name.length := by
      rw [String.length_ofList, ← String.length_toList]
      exact (List.takeWhile_prefix _).length_le
    have h := decodeField_eq_concat_iff path (missingFieldOf?_missingField name) hlen
    rw [ofList_takeWhile_eq_iff] at h
    rw [placeName?, place, if_neg (by simp)]
    exact h
  | _ => exact hother rfl

theorem placeName?_of_missingField {f : DecodeFailure} {name : String}
    (h : f.fault = .missingField name) :
    f.placeName? = some (Path.ofSegments (f.path ++ [name])) := by
  simp [placeName?, place, h]

theorem clear_iff_of_missingField {f : DecodeFailure} {name : String}
    (h : f.fault = .missingField name) : f.Clear ↔ '`' ∉ name.toList ∧ f.path ≠ [""] := by
  rw [Clear, h]

theorem clear_iff_of_wrongKind {f : DecodeFailure} {got : Value} {wanted : String}
    (h : f.fault = .wrongKind got wanted) (hw : '`' ∉ wanted.toList) (hp : f.path ≠ [""]) :
    f.Clear ↔ ∀ s, got = .string s → ¬ SpeaksOfMissing s.toList := by
  simp only [Clear, h, if_neg hp, DecodeFault.speaksOfMissing_wrongKind hw, not_exists, not_and]

theorem clear_of_outOfRange {f : DecodeFailure} {n : Int} {wanted : String}
    (h : f.fault = .outOfRange n wanted) (hw : '`' ∉ wanted.toList) (hp : f.path ≠ [""]) :
    f.Clear := by
  simp only [Clear, h, if_neg hp]
  exact DecodeFault.not_speaksOfMissing_outOfRange hw

end DecodeFailure

end DocumentDb
