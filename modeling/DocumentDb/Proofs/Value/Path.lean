import DocumentDb.Value.Path

/-!
# Laws of paths

What is put at a path is found there (`Document.lookup_setPath`), whatever the segments of the path
are and whatever was in its way: a path is written through documents only, and every segment, a
numeral or the empty one too, is then a key.

**Paths apart** (`Path.Apart`, `Path.Unrelated`). Neither path begins with the segments of the
other. What is put at a path then leaves the other one alone
(`Document.resolve_setSegments_of_apart`), provided that it goes through no array
(`Document.ThroughNoArray`): an array on the way would give place to a document and take its items
with it.

**The rest** (`Document.SameBeside`). What two documents have at all paths apart from a given one.
It stays as it is when another value is put at a path, exactly if the path goes through no array
(`Document.sameBeside_setPath_iff`): every numeral can be spelled otherwise, and the place in an
array that it stands for is found under one spelling only once the array is a document.
-/

namespace DocumentDb

/-! ## The text of a path -/

namespace Text

variable {separator : Char} {cs : List Char}

theorem splitChars_of_not_mem (h : separator ∉ cs) : splitChars separator cs = [cs] := by
  induction cs with
  | nil => rfl
  | cons c cs ih =>
    rw [List.mem_cons, not_or] at h
    rw [splitChars, if_neg (Ne.symm h.1), ih h.2, List.modifyHead_cons]

theorem splitChars_append (h : separator ∉ cs) (ds : List Char) :
    splitChars separator (cs ++ separator :: ds) = cs :: splitChars separator ds := by
  induction cs with
  | nil => rw [List.nil_append, splitChars, if_pos rfl]
  | cons c cs ih =>
    rw [List.mem_cons, not_or] at h
    rw [List.cons_append, splitChars, if_neg (Ne.symm h.1), ih h.2, List.modifyHead_cons]

/-- Pieces put together with separators in between are split into what they were. -/
theorem splitChars_intercalate {pieces : List (List Char)} (hne : pieces ≠ [])
    (h : ∀ cs ∈ pieces, separator ∉ cs) :
    splitChars separator ([separator].intercalate pieces) = pieces := by
  induction pieces with
  | nil => exact (hne rfl).elim
  | cons cs pieces ih =>
    rw [List.forall_mem_cons] at h
    cases pieces with
    | nil => rw [List.intercalate_singleton, splitChars_of_not_mem h.1]
    | cons ds pieces =>
      rw [List.intercalate_cons_cons, List.append_assoc, List.singleton_append,
        splitChars_append h.1, ih (List.cons_ne_nil _ _) h.2]

theorem not_mem_of_mem_splitChars {piece : List Char} (h : piece ∈ splitChars separator cs) :
    separator ∉ piece := by
  induction cs generalizing piece with
  | nil =>
    rw [splitChars, List.mem_singleton] at h
    simp [h]
  | cons c cs ih =>
    rw [splitChars] at h
    split at h
    · rcases List.mem_cons.1 h with rfl | h
      · exact List.not_mem_nil
      · exact ih h
    · next hc =>
      obtain ⟨p, ps, hps⟩ := List.exists_cons_of_ne_nil (splitChars_ne_nil separator cs)
      rw [hps, List.modifyHead_cons] at h
      rw [hps] at ih
      rcases List.mem_cons.1 h with rfl | h
      · rw [List.mem_cons, not_or]
        exact ⟨Ne.symm hc, ih List.mem_cons_self⟩
      · exact ih (List.mem_cons_of_mem p h)

/-- Every numeral can be spelled otherwise. -/
theorem exists_ne_natOfText?_eq {s : String} {n : Nat} (h : natOfText? s = some n)
    (hs : '.' ∉ s.toList) : ∃ t, t ≠ s ∧ natOfText? t = some n ∧ '.' ∉ t.toList := by
  rw [natOfText?] at h
  split at h
  · next cs hcs =>
    -- A plus sign in front can be left out.
    refine ⟨String.ofList cs, fun he => ?_, ?_, ?_⟩
    · have := congrArg (List.length ∘ String.toList) he
      simp [hcs] at this
    · rw [natOfText?, String.toList_ofList]
      split
      · next ds => simp [digitsValue?, digitValue?] at h
      · exact h
    · rw [hcs] at hs
      simpa using hs
  · -- Otherwise one can be put there.
    refine ⟨String.ofList ('+' :: s.toList), fun he => ?_, ?_, ?_⟩
    · have := congrArg (List.length ∘ String.toList) he
      simp at this
    · rw [natOfText?, String.toList_ofList]
      exact h
    · simpa using hs

end Text

theorem Path.exists_segments_eq_cons (path : String) :
    ∃ s ss, Path.segments path = s :: ss := by
  refine List.exists_cons_of_ne_nil fun h => ?_
  exact Text.splitChars_ne_nil '.' path.toList (List.map_eq_nil_iff.1 h)

namespace Path

theorem segments_ofSegments {ss : List String} (hne : ss ≠ [])
    (h : ∀ s ∈ ss, '.' ∉ s.toList) : segments (ofSegments ss) = ss := by
  have hmap : ∀ cs ∈ ss.map String.toList, '.' ∉ cs := by simpa using h
  have hdot : ".".toList = ['.'] := rfl
  rw [segments, Text.splitText, ofSegments, String.toList_intercalate, hdot,
    Text.splitChars_intercalate (by simpa using hne) hmap, List.map_map]
  simp [Function.comp_def]

theorem ofSegments_singleton (s : String) : ofSegments [s] = s :=
  String.intercalate_singleton

theorem ofSegments_cons_cons (s t : String) (ss : List String) :
    ofSegments (s :: t :: ss) = s ++ "." ++ ofSegments (t :: ss) :=
  String.intercalate_cons_cons

/-- The path of a single empty segment cannot be told from that of none. -/
theorem ofSegments_eq_empty_iff {ss : List String} : ofSegments ss = "" ↔ ss = [] ∨ ss = [""] := by
  cases ss with
  | nil => exact iff_of_true rfl (.inl rfl)
  | cons s ss =>
    cases ss with
    | nil => simp [ofSegments_singleton]
    | cons t ss => simp [ofSegments_cons_cons]

theorem ofSegments_concat {ss : List String} (h : ss ≠ []) (s : String) :
    ofSegments (ss ++ [s]) = ofSegments ss ++ "." ++ s := by
  induction ss with
  | nil => exact (h rfl).elim
  | cons t ss ih =>
    cases ss with
    | nil => rw [List.singleton_append, ofSegments_cons_cons, ofSegments_singleton,
        ofSegments_singleton]
    | cons u ss =>
      rw [List.cons_append, List.cons_append, ofSegments_cons_cons, ← List.cons_append,
        ih (List.cons_ne_nil u ss), ofSegments_cons_cons]
      simp only [String.append_assoc]

theorem append_dot_append_ne (path s : String) : path ++ "." ++ s ≠ path := by
  intro h
  have hlen := congrArg String.length h
  have hdot : ".".length = 1 := rfl
  rw [String.length_append, String.length_append] at hlen
  omega

theorem dot_not_mem_of_mem_segments {path s : String} (h : s ∈ segments path) :
    '.' ∉ s.toList := by
  obtain ⟨cs, hcs, rfl⟩ := List.mem_map.1 h
  rw [String.toList_ofList]
  exact Text.not_mem_of_mem_splitChars hcs

end Path

/-! ## What is put at a path -/

namespace Value

theorem resolve_append (v : Value) (ss ts : List String) :
    v.resolve (ss ++ ts) = (v.resolve ss).bind (·.resolve ts) := by
  induction ss generalizing v with
  | nil => rw [List.nil_append, resolve, Option.bind_some]
  | cons s ss ih =>
    rw [List.cons_append]
    cases v with
    | document es => simp only [resolve, Option.bind_assoc, ih]
    | array items => simp only [resolve, Option.bind_assoc, ih]
    | _ => rfl

end Value

namespace Path

/-- Neither of two rows of segments begins with the other. -/
def Apart (ss ts : List String) : Prop :=
  ¬ ss <+: ts ∧ ¬ ts <+: ss

instance (ss ts : List String) : Decidable (Apart ss ts) :=
  inferInstanceAs (Decidable (_ ∧ _))

theorem Apart.symm {ss ts : List String} (h : Apart ss ts) : Apart ts ss :=
  ⟨h.2, h.1⟩

theorem not_nil_apart (ts : List String) : ¬ Apart [] ts :=
  fun h => h.1 List.nil_prefix

theorem not_apart_nil (ss : List String) : ¬ Apart ss [] :=
  fun h => h.2 List.nil_prefix

theorem apart_cons_cons {s t : String} {ss ts : List String} :
    Apart (s :: ss) (t :: ts) ↔ s ≠ t ∨ Apart ss ts := by
  simp only [Apart, List.cons_prefix_cons]
  by_cases h : s = t
  · simp [h]
  · simp [h, Ne.symm h]

/-- Rows that are apart share some segments and then part. -/
@[elab_as_elim]
theorem Apart.induct {motive : ∀ ss ts, Apart ss ts → Prop}
    (parted : ∀ (s t : String) (ss ts : List String) (h : s ≠ t),
      motive (s :: ss) (t :: ts) (apart_cons_cons.2 (.inl h)))
    (shared : ∀ (s t u : String) (ss ts : List String) (h : Apart (t :: ss) (u :: ts)),
      motive (t :: ss) (u :: ts) h →
        motive (s :: t :: ss) (s :: u :: ts) (apart_cons_cons.2 (.inr h)))
    {ss ts : List String} (h : Apart ss ts) : motive ss ts h := by
  induction ss generalizing ts with
  | nil => exact (not_nil_apart _ h).elim
  | cons s ss ih =>
    cases ts with
    | nil => exact (not_apart_nil _ h).elim
    | cons t ts =>
      by_cases hst : s = t
      · subst hst
        have hss : Apart ss ts := (apart_cons_cons.1 h).resolve_left fun hne => hne rfl
        cases ss with
        | nil => exact (not_nil_apart _ hss).elim
        | cons u ss =>
          cases ts with
          | nil => exact (not_apart_nil _ hss).elim
          | cons u' ts => exact shared s u u' ss ts hss (ih hss)
      · exact parted s t ss ts hst

/-- Neither of two paths begins with the other. -/
def Unrelated (p q : String) : Prop :=
  Apart (segments p) (segments q)

instance (p q : String) : Decidable (Unrelated p q) :=
  inferInstanceAs (Decidable (Apart _ _))

end Path

namespace Document

theorem lookup_nil (path : String) : lookup [] path = none := by
  obtain ⟨s, ss, h⟩ := Path.exists_segments_eq_cons path
  rw [lookup, h]
  rfl

theorem setSegments_cons_cons (v : Value) (d : Document) (s t : String) (ss : List String) :
    setSegments v d (s :: t :: ss) =
      d.insert s (.document (setSegments v (d.documentAt s) (t :: ss))) := rfl

theorem documentAt_insert_self (d : Document) (key : String) (es : Document) :
    documentAt (d.insert key (.document es)) key = es := by
  rw [documentAt, Assoc.get?_insert_self]

theorem documentAt_insert_of_ne (d : Document) {key other : String} (v : Value)
    (h : other ≠ key) : documentAt (d.insert key v) other = d.documentAt other := by
  rw [documentAt, Assoc.get?_insert_of_ne d v h, documentAt]

theorem resolve_document (es : Document) (s : String) (ss : List String) :
    (Value.document es).resolve (s :: ss) = Document.resolve es (s :: ss) := by
  rw [Value.resolve, Document.resolve]

theorem resolve_setSegments (v : Value) (d : Document) (s : String) (ss : List String) :
    (setSegments v d (s :: ss)).resolve (s :: ss) = some v := by
  induction ss generalizing d s with
  | nil => simp [setSegments, resolve, Assoc.get?_insert_self, Value.resolve]
  | cons t ss ih =>
    rw [setSegments_cons_cons, resolve, Assoc.get?_insert_self, Option.bind_some,
      resolve_document]
    exact ih (d.documentAt s) t

theorem lookup_setPath (d : Document) (path : String) (v : Value) :
    (d.setPath path v).lookup path = some v := by
  obtain ⟨s, ss, h⟩ := Path.exists_segments_eq_cons path
  rw [lookup, setPath, h]
  exact resolve_setSegments v d s ss

/-- Putting a value into the empty document makes one entry, with the value or a document. -/
theorem setPath_nil (path : String) (v : Value) :
    ∃ key w, setPath [] path v = single key w ∧ (w = v ∨ ∃ es, w = .document es) := by
  obtain ⟨s, ss, h⟩ := Path.exists_segments_eq_cons path
  rw [setPath, h]
  cases ss with
  | nil => exact ⟨s, v, rfl, .inl rfl⟩
  | cons t ss => exact ⟨s, _, rfl, .inr ⟨_, rfl⟩⟩

/-! ## Paths apart -/

theorem resolve_append (d : Document) (s : String) (ss ts : List String) :
    d.resolve (s :: ss ++ ts) = (d.resolve (s :: ss)).bind (·.resolve ts) := by
  simp only [List.cons_append, resolve, Option.bind_assoc, Value.resolve_append]

theorem resolve_nil_left (ss : List String) : resolve [] ss = none := by
  cases ss <;> rfl

/-- No segment but the last one leads to an array. -/
def ThroughNoArray (d : Document) (ss : List String) : Prop :=
  ∀ before after items, ss = before ++ after → after ≠ [] →
    d.resolve before ≠ some (.array items)

theorem throughNoArray_nil (ss : List String) : ThroughNoArray [] ss := by
  intro before after items _ _
  simp [resolve_nil_left]

theorem ThroughNoArray.get? {d : Document} {s t : String} {ss : List String}
    (h : d.ThroughNoArray (s :: t :: ss)) (items : List Value) :
    d.get? s ≠ some (.array items) := by
  have hs := h [s] (t :: ss) items rfl (List.cons_ne_nil _ _)
  simpa [resolve, Value.resolve] using hs

theorem ThroughNoArray.documentAt {d : Document} {s : String} {ss : List String}
    (h : d.ThroughNoArray (s :: ss)) : (d.documentAt s).ThroughNoArray ss := by
  intro before after items hss hne
  rw [Document.documentAt]
  split
  · next es hes =>
    cases before with
    | nil => simp [resolve]
    | cons b before =>
      have hb := h (s :: b :: before) after items (by rw [hss]; rfl) hne
      rwa [resolve, hes, Option.bind_some, resolve_document] at hb
  · simp [resolve_nil_left]

theorem throughNoArray_singleton (d : Document) (s : String) : d.ThroughNoArray [s] := by
  intro before after items hss hne
  cases before with
  | nil => simp [resolve]
  | cons b before => simp_all

/-- Where no array stands, a path is followed through the document there. -/
theorem resolve_cons_cons {d : Document} {s : String} (t : String) (ts : List String)
    (h : ∀ items, d.get? s ≠ some (.array items)) :
    d.resolve (s :: t :: ts) = (d.documentAt s).resolve (t :: ts) := by
  rw [resolve, Document.documentAt]
  cases hs : d.get? s with
  | none => rfl
  | some v =>
    rw [Option.bind_some]
    cases v with
    | document es => exact resolve_document es t ts
    | array items => exact (h items hs).elim
    | _ => rfl

theorem throughNoArray_cons_cons {d : Document} {s t : String} {ss : List String} :
    d.ThroughNoArray (s :: t :: ss) ↔
      (∀ items, d.get? s ≠ some (.array items)) ∧ (d.documentAt s).ThroughNoArray (t :: ss) := by
  refine ⟨fun h => ⟨h.get?, h.documentAt⟩, fun ⟨hs, hd⟩ before after items hss hne => ?_⟩
  rcases before with _ | ⟨b, _ | ⟨b', before⟩⟩
  · simp [resolve]
  · obtain ⟨rfl, -⟩ := List.cons.inj hss
    cases hv : d.get? s <;> simp_all [resolve, Value.resolve]
  · obtain ⟨rfl, htail⟩ := List.cons.inj hss
    rw [resolve_cons_cons b' before hs]
    exact hd (b' :: before) after items htail hne

instance decidableThroughNoArray :
    (d : Document) → (ss : List String) → Decidable (d.ThroughNoArray ss)
  | d, [] => isTrue fun before after _ hss hne _ =>
    hne (List.append_eq_nil_iff.1 hss.symm).2
  | d, [s] => isTrue (throughNoArray_singleton d s)
  | d, s :: t :: ss =>
    have := decidableThroughNoArray (d.documentAt s) (t :: ss)
    decidable_of_iff (((d.get? s).bind Value.items?).isNone ∧
      (d.documentAt s).ThroughNoArray (t :: ss)) <| by
      rw [throughNoArray_cons_cons]
      refine and_congr_left fun _ => ?_
      cases d.get? s with
      | none => simp
      | some v => cases v <;> simp [Value.items?]

/-- Putting a value at a path replaces what stands under its first segment, by what that tells. -/
theorem exists_setSegments_eq_insert (v : Value) (d : Document) (s : String) (ss : List String) :
    ∃ w, ∀ e : Document, e.get? s = d.get? s → setSegments v e (s :: ss) = e.insert s w := by
  cases ss with
  | nil => exact ⟨v, fun e _ => rfl⟩
  | cons t ss =>
    refine ⟨.document (setSegments v (d.documentAt s) (t :: ss)), fun e he => ?_⟩
    rw [setSegments_cons_cons, documentAt, documentAt, he]

/-- **The frame.** Putting a value at a path through no array leaves the paths alone that neither
lead to it nor go on from it. -/
theorem resolve_setSegments_of_apart {d : Document} {ss ts : List String} (v : Value)
    (h : Path.Apart ss ts) (hd : d.ThroughNoArray ss) :
    (setSegments v d ss).resolve ts = d.resolve ts := by
  induction h using Path.Apart.induct generalizing d with
  | parted s t ss ts hst =>
    obtain ⟨w, hw⟩ := exists_setSegments_eq_insert v d s ss
    rw [hw d rfl, resolve, Assoc.get?_insert_of_ne d w hst.symm, resolve]
  | shared s t u ss ts _ ih =>
    rw [setSegments_cons_cons, resolve, Assoc.get?_insert_self, Option.bind_some,
      resolve_document, ih hd.documentAt, resolve_cons_cons u ts hd.get?]

/-- A path through no array is none through one either after a value has been put elsewhere. -/
theorem ThroughNoArray.setSegments {d : Document} {ss ts : List String}
    (hts : d.ThroughNoArray ts) (h : Path.Apart ss ts) (v : Value) :
    (Document.setSegments v d ss).ThroughNoArray ts := by
  induction h using Path.Apart.induct generalizing d with
  | parted s t ss ts hst =>
    cases ts with
    | nil => exact throughNoArray_singleton _ t
    | cons u ts =>
      obtain ⟨w, hw⟩ := exists_setSegments_eq_insert v d s ss
      rw [throughNoArray_cons_cons] at hts ⊢
      rwa [hw d rfl, documentAt_insert_of_ne d w hst.symm, Assoc.get?_insert_of_ne d w hst.symm]
  | shared s t u ss ts _ ih =>
    rw [throughNoArray_cons_cons] at hts ⊢
    rw [setSegments_cons_cons, documentAt_insert_self, Assoc.get?_insert_self]
    exact ⟨fun items => by simp, ih hts.2⟩

/-- Putting what is at a path already changes nothing, if no array is on the way. -/
theorem setSegments_eq_self {d : Document} {ss : List String} {v : Value}
    (hd : d.ThroughNoArray ss) (h : d.resolve ss = some v) :
    Document.setSegments v d ss = d := by
  induction ss generalizing d with
  | nil => rfl
  | cons s ss ih =>
    cases ss with
    | nil =>
      refine Assoc.insert_eq_self ?_
      simpa [resolve, Value.resolve] using h
    | cons t ss =>
      rw [resolve_cons_cons t ss hd.get?] at h
      rw [setSegments_cons_cons, ih hd.documentAt h]
      refine Assoc.insert_eq_self ?_
      rw [documentAt] at h ⊢
      split at h
      · assumption
      · rw [resolve_nil_left] at h
        cases h

/-! ## The rest -/

/-- A value that is reached through an array is lost under another spelling of the path when
something is put in its place. -/
theorem exists_lost_of_not_throughNoArray {d : Document} {ss : List String} {w : Value}
    (hw : d.resolve ss = some w) (ha : ¬ d.ThroughNoArray ss) (hs : ∀ s ∈ ss, '.' ∉ s.toList)
    (v : Value) :
    ∃ ts, Path.Apart ss ts ∧ (∀ t ∈ ts, '.' ∉ t.toList) ∧ d.resolve ts = some w ∧
      (setSegments v d ss).resolve ts = none := by
  induction ss generalizing d with
  | nil => cases hw
  | cons s ss ih =>
    cases ss with
    | nil => exact (ha (throughNoArray_singleton d s)).elim
    | cons t ss =>
      rw [List.forall_mem_cons] at hs
      by_cases hd : ∀ items, d.get? s ≠ some (.array items)
      · rw [resolve_cons_cons t ss hd] at hw
        have ha' : ¬ (d.documentAt s).ThroughNoArray (t :: ss) := fun h =>
          ha (throughNoArray_cons_cons.2 ⟨hd, h⟩)
        obtain ⟨ts, hts, hdots, hold, hnew⟩ := ih hw ha' hs.2
        obtain ⟨u, us, rfl⟩ := List.exists_cons_of_ne_nil fun h : ts = [] =>
          Path.not_apart_nil _ (h ▸ hts)
        refine ⟨s :: u :: us, Path.apart_cons_cons.2 (.inr hts),
          List.forall_mem_cons.2 ⟨hs.1, hdots⟩, ?_, ?_⟩
        · rw [resolve_cons_cons u us hd, hold]
        · rw [setSegments_cons_cons, resolve, Assoc.get?_insert_self, Option.bind_some,
            resolve_document, hnew]
      · -- The segment behind the array is a numeral, and stands for a key afterwards.
        obtain ⟨items, hd⟩ := Classical.not_forall_not.1 hd
        rw [resolve, hd, Option.bind_some, Value.resolve, Option.bind_eq_some_iff] at hw
        obtain ⟨x, hx, hw⟩ := hw
        obtain ⟨n, hn, hx⟩ := Option.bind_eq_some_iff.1 hx
        obtain ⟨hst, hss⟩ := List.forall_mem_cons.1 hs.2
        obtain ⟨u, hne, hu, hdot⟩ := Text.exists_ne_natOfText?_eq hn hst
        refine ⟨s :: u :: ss,
          Path.apart_cons_cons.2 (.inr (Path.apart_cons_cons.2 (.inl hne.symm))),
          List.forall_mem_cons.2 ⟨hs.1, List.forall_mem_cons.2 ⟨hdot, hss⟩⟩, ?_, ?_⟩
        · rw [resolve, hd, Option.bind_some, Value.resolve, hu, Option.bind_some, hx,
            Option.bind_some, hw]
        · obtain ⟨y, hy⟩ := exists_setSegments_eq_insert v [] t ss
          have hnone : documentAt d s = [] := by rw [documentAt, hd]
          rw [setSegments_cons_cons, resolve, Assoc.get?_insert_self, Option.bind_some,
            resolve_document, hnone, hy [] rfl, resolve, Assoc.get?_insert_of_ne _ _ hne]
          rfl

/-- Two documents have the same at all paths that neither lead to the given one nor go on from
it. -/
def SameBeside (path : String) (d e : Document) : Prop :=
  ∀ other, Path.Unrelated path other → e.lookup other = d.lookup other

/-- Putting a value in the place of another one keeps the rest exactly if no array is on the way. -/
theorem sameBeside_setPath_iff {d : Document} {path : String} {w : Value}
    (hw : d.lookup path = some w) (v : Value) :
    SameBeside path d (d.setPath path v) ↔ d.ThroughNoArray (Path.segments path) := by
  constructor
  · intro h
    refine Decidable.byContradiction fun ha => ?_
    obtain ⟨ts, hts, hdots, hold, hnew⟩ := exists_lost_of_not_throughNoArray hw ha
      (fun s hs => Path.dot_not_mem_of_mem_segments hs) v
    have hne : ts ≠ [] := fun he => Path.not_apart_nil _ (he ▸ hts)
    have hseg := Path.segments_ofSegments hne hdots
    have hother := h (Path.ofSegments ts) (by rwa [Path.Unrelated, hseg])
    rw [lookup, lookup, hseg, hold, setPath, hnew] at hother
    cases hother
  · exact fun ha other hother => resolve_setSegments_of_apart v hother ha

end Document

end DocumentDb
