import DocumentDb.Filter.Match
import DocumentDb.Proofs.Filter.Render
import DocumentDb.Proofs.Result

/-!
# Filters are Boolean formulas

Deciding a filter stops at the first operand that settles a combination, and fails at an operand
that is wrong. A filter that has a query document (`Filter.Renders`) has nothing wrong in it.

**The Boolean reading** (`Filter.answer`) asks all operands of a combination: a conjunction answers
yes if all of them do, a disjunction if one of them does, and `not` is negation.

**Chains.** `and` lengthens a conjunction that is there already and `or` a disjunction, so each of
them builds one of two filters (`and_cases`, `or_cases`). Both have the same reading.

**Theorem (`decided_as_boolean`).** A filter that has a query document is decided on every document,
by its Boolean reading. What `and`, `or` and `negate` build of such filters has a query document
again, and is decided by the conjunction, disjunction and negation of the answers.
-/

namespace DocumentDb

variable {d : Document}

/-! ## The Boolean reading -/

/-- The answer of a comparison to the value of a field. -/
def Comparison.answer (op : Comparison) (v : Option Value) (operand : Value) : Bool :=
  match op with
  | eq => Value.matchesEq v operand
  | ne => !Value.matchesEq v operand
  | gt => Value.matchesOrder Ordering.isGT v operand
  | gte => Value.matchesOrder Ordering.isGE v operand
  | lt => Value.matchesOrder Ordering.isLT v operand
  | lte => Value.matchesOrder Ordering.isLE v operand
  | isIn => (operand.items?.getD []).any (Value.matchesEq v)
  | notIn => !(operand.items?.getD []).any (Value.matchesEq v)
  | size => operand.length?.any (Value.hasLength v)

mutual

/-- The answer of a filter to a document. -/
def Filter.answer (d : Document) : Filter → Bool
  | .all fs => allYes d fs
  | .any fs => oneYes d fs
  | .not f => !f.answer d
  | .present field expected => (d.lookup field).isSome == expected
  | .compare field op operand => op.answer (d.lookup field) operand
  | .invalid _ => false

/-- Whether all of some filters answer yes. -/
def allYes (d : Document) : List Filter → Bool
  | [] => true
  | f :: fs => f.answer d && allYes d fs

/-- Whether one of some filters answers yes. -/
def oneYes (d : Document) : List Filter → Bool
  | [] => false
  | f :: fs => f.answer d || oneYes d fs

end

theorem allYes_eq_all (d : Document) (fs : List Filter) :
    allYes d fs = fs.all (·.answer d) := by
  induction fs with
  | nil => rfl
  | cons f fs ih => rw [allYes, ih, List.all_cons]

theorem oneYes_eq_any (d : Document) (fs : List Filter) :
    oneYes d fs = fs.any (·.answer d) := by
  induction fs with
  | nil => rfl
  | cons f fs ih => rw [oneYes, ih, List.any_cons]

namespace Filter

variable {f g h : Filter} {fs : List Filter}

theorem answer_all (d : Document) (fs : List Filter) :
    (all fs).answer d = fs.all (·.answer d) := by
  rw [answer, allYes_eq_all]

theorem answer_any (d : Document) (fs : List Filter) :
    (any fs).answer d = fs.any (·.answer d) := by
  rw [answer, oneYes_eq_any]

theorem answer_not (d : Document) (f : Filter) : (not f).answer d = !f.answer d := by
  rw [answer]

/-! ## Filters that have a query document -/

/-- The filter has a query document. -/
def Renders (f : Filter) : Prop :=
  ∃ q, f.render = .ok q

theorem exists_renderFilters_iff :
    (∃ items, renderFilters fs = .ok items) ↔ ∀ f ∈ fs, f.Renders := by
  induction fs with
  | nil => simp [renderFilters]
  | cons f fs ih =>
    rw [List.forall_mem_cons, ← ih]
    constructor
    · rintro ⟨items, hi⟩
      obtain ⟨p, ps, hp, hps, -⟩ := renderFilters_cons_eq_ok_iff.1 hi
      exact ⟨⟨p, hp⟩, ps, hps⟩
    · rintro ⟨⟨p, hp⟩, ps, hps⟩
      exact ⟨_, renderFilters_cons_eq_ok_iff.2 ⟨p, ps, hp, hps, rfl⟩⟩

theorem renders_all_iff : (all fs).Renders ↔ fs ≠ [] ∧ ∀ f ∈ fs, f.Renders := by
  rw [← exists_renderFilters_iff]
  constructor
  · rintro ⟨q, hq⟩
    obtain ⟨hne, items, hi, -⟩ := render_all_eq_ok_iff.1 hq
    exact ⟨hne, items, hi⟩
  · rintro ⟨hne, items, hi⟩
    exact ⟨_, render_all_eq_ok_iff.2 ⟨hne, items, hi, rfl⟩⟩

theorem renders_any_iff : (any fs).Renders ↔ fs ≠ [] ∧ ∀ f ∈ fs, f.Renders := by
  rw [← exists_renderFilters_iff]
  constructor
  · rintro ⟨q, hq⟩
    obtain ⟨hne, items, hi, -⟩ := render_any_eq_ok_iff.1 hq
    exact ⟨hne, items, hi⟩
  · rintro ⟨hne, items, hi⟩
    exact ⟨_, render_any_eq_ok_iff.2 ⟨hne, items, hi, rfl⟩⟩

theorem renders_not_iff : (not f).Renders ↔ f.Renders := by
  constructor
  · rintro ⟨q, hq⟩
    obtain ⟨p, hp, -⟩ := render_not_eq_ok_iff.1 hq
    exact ⟨p, hp⟩
  · rintro ⟨p, hp⟩
    exact ⟨_, render_not_eq_ok_iff.2 ⟨p, hp, rfl⟩⟩

theorem accepts_of_renders {field : String} {op : Comparison} {operand : Value}
    (h : (compare field op operand).Renders) : op.accepts operand = true := by
  obtain ⟨q, hq⟩ := h
  by_cases ho : op = .eq
  · rw [ho]
    rfl
  · exact ((render_compare_eq_ok_iff ho).1 hq).1

/-! ## Deciding them -/

theorem comparisonHolds_of_accepts (field : String) {op : Comparison} (v : Option Value)
    {operand : Value} (h : op.accepts operand = true) :
    comparisonHolds field op v operand = .ok (op.answer v operand) := by
  cases op with
  | isIn | notIn =>
    cases operand with
    | array items => rfl
    | _ => cases h
  | size =>
    obtain ⟨n, hn⟩ := Option.isSome_iff_exists.1 h
    simp [comparisonHolds, Comparison.answer, hn]
  | _ => rfl

/-- One more operand of a conjunction. -/
theorem allHold_cons {b b' : Bool} (hf : f.holds d = .ok b) (hfs : allHold d fs = .ok b') :
    allHold d (f :: fs) = .ok (b && b') := by
  rw [allHold, hf, hfs]
  cases b <;> rfl

/-- One more operand of a disjunction. -/
theorem anyHolds_cons {b b' : Bool} (hf : f.holds d = .ok b) (hfs : anyHolds d fs = .ok b') :
    anyHolds d (f :: fs) = .ok (b || b') := by
  rw [anyHolds, hf, hfs]
  cases b <;> rfl

theorem requireOperands_of_ne_nil (operator : String) (h : fs ≠ []) :
    requireOperands operator fs = .ok () := by
  rw [requireOperands, if_neg (by simpa using h)]

theorem holds_of_renders_mutual (d : Document) :
    (∀ f : Filter, f.Renders → f.holds d = .ok (f.answer d)) ∧
      (∀ fs, (∀ f ∈ fs, f.Renders) → anyHolds d fs = .ok (oneYes d fs)) ∧
        ∀ fs, (∀ f ∈ fs, f.Renders) → allHold d fs = .ok (allYes d fs) := by
  apply answer.mutual_induct
  case case1 =>
    intro fs ih h
    obtain ⟨hne, hfs⟩ := renders_all_iff.1 h
    rw [holds, requireOperands_of_ne_nil "$and" hne, answer]
    exact ih hfs
  case case2 =>
    intro fs ih h
    obtain ⟨hne, hfs⟩ := renders_any_iff.1 h
    rw [holds, requireOperands_of_ne_nil "$or" hne, answer]
    exact ih hfs
  case case3 =>
    intro f ih h
    rw [holds, ih (renders_not_iff.1 h), answer]
    rfl
  case case4 => exact fun _ _ _ => rfl
  case case5 =>
    intro field op operand h
    exact comparisonHolds_of_accepts field _ (accepts_of_renders h)
  case case6 =>
    rintro reason ⟨q, hq⟩
    cases hq
  case case7 | case9 => exact fun _ => rfl
  case case8 =>
    intro f fs ihf ihfs h
    rw [List.forall_mem_cons] at h
    exact anyHolds_cons (ihf h.1) (ihfs h.2)
  case case10 =>
    intro f fs ihf ihfs h
    rw [List.forall_mem_cons] at h
    exact allHold_cons (ihf h.1) (ihfs h.2)

/-- A filter that has a query document is decided by its Boolean reading. -/
theorem holds_of_renders (hf : f.Renders) (d : Document) : f.holds d = .ok (f.answer d) :=
  (holds_of_renders_mutual d).1 f hf

/-! ## Chains -/

/-- What `and` builds: a longer conjunction, or a new one. -/
theorem and_cases (f g : Filter) :
    (∃ fs, f = all fs ∧ f.and g = all (fs ++ [g])) ∨ f.and g = all [f, g] := by
  cases f with
  | all fs => exact .inl ⟨fs, rfl, rfl⟩
  | _ => exact .inr rfl

/-- What `or` builds: a longer disjunction, or a new one. -/
theorem or_cases (f g : Filter) :
    (∃ fs, f = any fs ∧ f.or g = any (fs ++ [g])) ∨ f.or g = any [f, g] := by
  cases f with
  | any fs => exact .inl ⟨fs, rfl, rfl⟩
  | _ => exact .inr rfl

theorem answer_and (f g : Filter) (d : Document) :
    (f.and g).answer d = (f.answer d && g.answer d) := by
  rcases and_cases f g with ⟨fs, rfl, h⟩ | h
  · rw [h, answer_all, answer_all, List.all_append]
    simp
  · rw [h, answer_all]
    simp

theorem answer_or (f g : Filter) (d : Document) :
    (f.or g).answer d = (f.answer d || g.answer d) := by
  rcases or_cases f g with ⟨fs, rfl, h⟩ | h
  · rw [h, answer_any, answer_any, List.any_append]
    simp
  · rw [h, answer_any]
    simp

/-- A chain that is lengthened by one operand. -/
theorem forall_renders_concat (hfs : ∀ f ∈ fs, f.Renders) (hg : g.Renders) :
    ∀ f ∈ fs ++ [g], f.Renders := by
  intro f hf
  rcases List.mem_append.1 hf with hf | hf
  · exact hfs f hf
  · rwa [List.mem_singleton.1 hf]

theorem Renders.and (hf : f.Renders) (hg : g.Renders) : (f.and g).Renders := by
  rcases and_cases f g with ⟨fs, rfl, h⟩ | h
  · rw [h, renders_all_iff]
    exact ⟨by simp, forall_renders_concat (renders_all_iff.1 hf).2 hg⟩
  · rw [h, renders_all_iff]
    exact ⟨by simp, by simp [hf, hg]⟩

theorem Renders.or (hf : f.Renders) (hg : g.Renders) : (f.or g).Renders := by
  rcases or_cases f g with ⟨fs, rfl, h⟩ | h
  · rw [h, renders_any_iff]
    exact ⟨by simp, forall_renders_concat (renders_any_iff.1 hf).2 hg⟩
  · rw [h, renders_any_iff]
    exact ⟨by simp, by simp [hf, hg]⟩

theorem Renders.negate (hf : f.Renders) : f.negate.Renders :=
  renders_not_iff.2 hf

theorem holds_and (hf : f.Renders) (hg : g.Renders) (d : Document) :
    (f.and g).holds d = .ok (f.answer d && g.answer d) := by
  rw [holds_of_renders (hf.and hg), answer_and]

theorem holds_or (hf : f.Renders) (hg : g.Renders) (d : Document) :
    (f.or g).holds d = .ok (f.answer d || g.answer d) := by
  rw [holds_of_renders (hf.or hg), answer_or]

theorem holds_negate (hf : f.Renders) (d : Document) : f.negate.holds d = .ok !f.answer d := by
  rw [holds_of_renders hf.negate, negate, answer_not]

/-! ## Selecting documents -/

/-- If a filter is decided on all documents, it selects those that it means. -/
theorem select_eq_ok_filter {docs : List Document} {p : Document → Bool}
    (h : ∀ d ∈ docs, f.holds d = .ok (p d)) : f.select docs = .ok (docs.filter p) := by
  induction docs with
  | nil => rfl
  | cons d docs ih =>
    rw [List.forall_mem_cons] at h
    rw [select, h.1, ih h.2, List.filter_cons]
    rfl

theorem select_of_renders (hf : f.Renders) (docs : List Document) :
    f.select docs = .ok (docs.filter (f.answer ·)) :=
  select_eq_ok_filter fun d _ => holds_of_renders hf d

theorem select_and (hf : f.Renders) (hg : g.Renders) (docs : List Document) :
    (f.and g).select docs = .ok ((docs.filter (f.answer ·)).filter (g.answer ·)) := by
  rw [select_eq_ok_filter fun d _ => holds_and hf hg d, List.filter_filter]
  simp only [Bool.and_comm]

/-- **Filters are decided as Boolean formulas.** Filters that have query documents are decided on
every document, with the answer of their Boolean reading. So are the filters that `and`, `or` and
`negate` build of them, by the Boolean operations on the answers; these obey the laws of
association and of De Morgan; and to select by a conjunction is to select twice. -/
theorem decided_as_boolean (hf : f.Renders) (hg : g.Renders) (hh : h.Renders) :
    (∀ d, f.holds d = .ok (f.answer d)) ∧
      (∀ d fs, (all fs).answer d = fs.all (·.answer d) ∧ (any fs).answer d = fs.any (·.answer d)) ∧
      (∀ d f, (not f).answer d = !f.answer d) ∧
      ((f.and g).Renders ∧ (f.or g).Renders ∧ f.negate.Renders) ∧
      (∀ d a b, f.holds d = .ok a → g.holds d = .ok b →
        (f.and g).holds d = .ok (a && b) ∧ (f.or g).holds d = .ok (a || b) ∧
          f.negate.holds d = .ok !a) ∧
      (∀ d, ((f.and g).and h).holds d = (f.and (g.and h)).holds d ∧
        ((f.or g).or h).holds d = (f.or (g.or h)).holds d) ∧
      (∀ d, (f.and g).negate.holds d = (f.negate.or g.negate).holds d ∧
        (f.or g).negate.holds d = (f.negate.and g.negate).holds d) ∧
      ∀ docs, ∃ first both, f.select docs = .ok first ∧ g.select first = .ok both ∧
        (f.and g).select docs = .ok both := by
  refine ⟨holds_of_renders hf, fun d fs => ⟨answer_all d fs, answer_any d fs⟩, answer_not,
    ⟨hf.and hg, hf.or hg, hf.negate⟩, ?_, ?_, ?_, ?_⟩
  · intro d a b ha hb
    obtain rfl := Except.ok.inj ((holds_of_renders hf d).symm.trans ha)
    obtain rfl := Except.ok.inj ((holds_of_renders hg d).symm.trans hb)
    exact ⟨holds_and hf hg d, holds_or hf hg d, holds_negate hf d⟩
  · intro d
    rw [holds_and (hf.and hg) hh, holds_and hf (hg.and hh), holds_or (hf.or hg) hh,
      holds_or hf (hg.or hh)]
    simp only [answer_and, answer_or, Bool.and_assoc, Bool.or_assoc, and_self]
  · intro d
    rw [holds_negate (hf.and hg), holds_or hf.negate hg.negate, holds_negate (hf.or hg),
      holds_and hf.negate hg.negate]
    simp only [negate, answer_and, answer_or, answer_not, Bool.not_and, Bool.not_or, and_self]
  · intro docs
    exact ⟨_, _, select_of_renders hf docs, select_of_renders hg _, select_and hf hg docs⟩

/-- A conjunction that grows, one operand of which is a negated disjunction of comparisons. -/
theorem decided_as_boolean_of_chain :
    let f := (compare "tags" .isIn (.array [.string "a"])).and (compare "tags" .size (.int64 2))
    let g := not (any [compare "age" .lt (.int32 18), present "gone" true])
    let h := compare "age" .gte (.double (.zero false))
    let d : Document := [("tags", .array [.string "a", .string "b"]), ("age", .int32 30)]
    (f.Renders ∧ g.Renders ∧ h.Renders) ∧ (f.and g).holds d = .ok true ∧
      (f.and g).negate.holds d = (f.negate.or g.negate).holds d ∧
      ((f.and g).and h).holds d = (f.and (g.and h)).holds d := by
  intro f g h d
  have hf : f.Renders := ⟨_, rfl⟩
  have hg : g.Renders := ⟨_, rfl⟩
  have hh : h.Renders := ⟨_, rfl⟩
  obtain ⟨-, -, -, -, hop, hassoc, hmorgan, -⟩ := decided_as_boolean hf hg hh
  have hfd : f.holds d = .ok true := rfl
  have hgd : g.holds d = .ok true := rfl
  exact ⟨⟨hf, hg, hh⟩, (hop d true true hfd hgd).1, (hmorgan d).1, (hassoc d).1⟩

end Filter

end DocumentDb
