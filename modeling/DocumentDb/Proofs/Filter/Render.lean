import DocumentDb.Filter.Render

/-!
# What filters are rendered as

Every filter that has a query document has one with a single entry (`render_eq_single`), and the
lemmas `render_…_eq_ok_iff` say which for each kind of filter.

**Equalities that read as operators** (`readsAsOperator`). An equality is rendered as the bare pair
of field and operand, so its query document is that of another filter if the field is the name of
a combination, or if the operand is a document that holds the name of an operator.

**Plain filters** (`Filter.plain`) hold no such equality. Two of them with the same query document
are the same filter (`Filter.eq_of_render`).
-/

namespace DocumentDb

/-! ## Comparisons -/

namespace Comparison

/-- Whether an operand fits a comparison. -/
def accepts : Comparison → Value → Bool
  | isIn, w | notIn, w => w.items?.isSome
  | size, w => w.length?.isSome
  | _, _ => true

theorem ofOperator?_eq_some_iff {name : String} {op : Comparison} :
    ofOperator? name = some op ↔ name = op.operator := by
  constructor
  · intro h
    have ho := List.find?_some h
    exact (beq_iff_eq.1 ho).symm
  · rintro rfl
    cases op <;> rfl

theorem operator_inj {op op' : Comparison} (h : op.operator = op'.operator) : op = op' := by
  rw [← ofOperator?_eq_some_iff, ofOperator?_eq_some_iff.2 rfl] at h
  exact Option.some_inj.1 h

theorem operator_ne_exists (op : Comparison) : op.operator ≠ "$exists" := by
  cases op <;> decide

end Comparison

/-! ## Rendered filters -/

namespace Filter

variable {field : String} {w : Value} {q : Document}

theorem render_eq (field : String) (w : Value) :
    (compare field .eq w).render = .ok (.single field w) := rfl

/-- All comparisons but equality nest their operator under the field. -/
theorem render_compare_eq_ok_iff {op : Comparison} (h : op ≠ .eq) :
    (compare field op w).render = .ok q ↔
      op.accepts w = true ∧
        q = .single field (.document (Document.single op.operator w)) := by
  rw [render, eq_comm (a := q)]
  cases op with
  | eq => exact (h rfl).elim
  | isIn | notIn | size =>
    rw [renderComparison, Comparison.accepts]
    split <;> simp_all
  | _ => simp [renderComparison, Comparison.accepts]

theorem render_present_eq_ok_iff {expected : Bool} :
    (present field expected).render = .ok q ↔
      q = .single field (.document (Document.single "$exists" (.bool expected))) := by
  rw [render, Except.ok.injEq, eq_comm]

theorem render_combined_eq_ok_iff {operator : String} {fs : List Filter} :
    (do requireOperands operator fs
        return Document.single operator (.array (← renderFilters fs)) :
          Except Error Document) = .ok q ↔
      fs ≠ [] ∧ ∃ items, renderFilters fs = .ok items ∧ q = .single operator (.array items) := by
  cases fs with
  | nil => simp [requireOperands, bind, Except.bind]
  | cons f fs =>
    cases renderFilters (f :: fs) <;>
      simp [requireOperands, bind, Except.bind, pure, Except.pure, eq_comm]

theorem render_all_eq_ok_iff {fs : List Filter} :
    (all fs).render = .ok q ↔
      fs ≠ [] ∧ ∃ items, renderFilters fs = .ok items ∧ q = .single "$and" (.array items) := by
  rw [render]
  exact render_combined_eq_ok_iff

theorem render_any_eq_ok_iff {fs : List Filter} :
    (any fs).render = .ok q ↔
      fs ≠ [] ∧ ∃ items, renderFilters fs = .ok items ∧ q = .single "$or" (.array items) := by
  rw [render]
  exact render_combined_eq_ok_iff

theorem render_not_eq_ok_iff {f : Filter} :
    (not f).render = .ok q ↔
      ∃ p, f.render = .ok p ∧ q = .single "$nor" (.array [.document p]) := by
  rw [render]
  cases f.render <;> simp [bind, Except.bind, pure, Except.pure, eq_comm]

theorem renderFilters_cons_eq_ok_iff {f : Filter} {fs : List Filter} {items : List Value} :
    renderFilters (f :: fs) = .ok items ↔
      ∃ p ps, f.render = .ok p ∧ renderFilters fs = .ok ps ∧ items = .document p :: ps := by
  rw [renderFilters]
  cases f.render <;> cases renderFilters fs <;>
    simp [bind, Except.bind, pure, Except.pure, eq_comm]

theorem render_eq_single {f : Filter} (h : f.render = .ok q) : ∃ k v, q = .single k v := by
  cases f with
  | all fs =>
    obtain ⟨-, items, -, rfl⟩ := render_all_eq_ok_iff.1 h
    exact ⟨_, _, rfl⟩
  | any fs =>
    obtain ⟨-, items, -, rfl⟩ := render_any_eq_ok_iff.1 h
    exact ⟨_, _, rfl⟩
  | not f =>
    obtain ⟨p, -, rfl⟩ := render_not_eq_ok_iff.1 h
    exact ⟨_, _, rfl⟩
  | present field expected => exact ⟨_, _, render_present_eq_ok_iff.1 h⟩
  | compare field op w =>
    by_cases ho : op = .eq
    · rw [ho, render_eq, Except.ok.injEq] at h
      exact ⟨_, _, h.symm⟩
    · exact ⟨_, _, ((render_compare_eq_ok_iff ho).1 h).2⟩
  | invalid reason => cases h

/-! ## Equalities that read as operators -/

/-- Whether an entry of an operand reads as an operator and what it is applied to. -/
def nestsOperator (key : String) (w : Value) : Bool :=
  match Comparison.ofOperator? key, w with
  | some .eq, _ => false
  | some op, w => op.accepts w
  | none, .bool _ => key == "$exists"
  | none, _ => false

/-- Whether a value is a document with one entry, as every query document of a filter is. -/
def isPair : Value → Bool
  | .document [_] => true
  | _ => false

/-- Whether a field reads as the name of a combination, and items as what it combines. -/
def combinesItems (field : String) (items : List Value) : Bool :=
  items.all isPair &&
    ((field == "$and" || field == "$or") && !items.isEmpty ||
      field == "$nor" && items.length == 1)

/-- Whether the query document of an equality is also that of a filter that is no equality. -/
def readsAsOperator (field : String) : Value → Bool
  | .document [(key, w)] => nestsOperator key w
  | .array items => combinesItems field items
  | _ => false

theorem nestsOperator_operator {op : Comparison} (ho : op ≠ .eq) :
    nestsOperator op.operator w = op.accepts w := by
  cases op with
  | eq => exact (ho rfl).elim
  | _ => rfl

theorem isPair_of_renderFilters {fs : List Filter} {items : List Value}
    (h : renderFilters fs = .ok items) : items.all isPair = true := by
  induction fs generalizing items with
  | nil =>
    cases h
    rfl
  | cons f fs ih =>
    obtain ⟨p, ps, hp, hps, rfl⟩ := renderFilters_cons_eq_ok_iff.1 h
    obtain ⟨k, v, rfl⟩ := render_eq_single hp
    rw [List.all_cons, ih hps]
    rfl

theorem ne_nil_of_renderFilters {fs : List Filter} {items : List Value}
    (h : renderFilters fs = .ok items) (hf : fs ≠ []) : items ≠ [] := by
  obtain ⟨f, fs, rfl⟩ := List.exists_cons_of_ne_nil hf
  obtain ⟨p, ps, -, -, rfl⟩ := renderFilters_cons_eq_ok_iff.1 h
  exact List.cons_ne_nil _ _

theorem readsAsOperator_of_renderFilters {fs : List Filter} {items : List Value}
    (hf : field = "$and" ∨ field = "$or") (h : renderFilters fs = .ok items) (hne : fs ≠ []) :
    readsAsOperator field (.array items) = true := by
  simp [readsAsOperator, combinesItems, isPair_of_renderFilters h, ne_nil_of_renderFilters h hne,
    hf]

/-- The query document of a filter that is no equality is that of one that reads as an operator. -/
theorem readsAsOperator_of_render {f : Filter} {k : String} {v : Value}
    (h : f.render = .ok (.single k v)) (hf : ∀ field w, f ≠ .compare field .eq w) :
    readsAsOperator k v = true := by
  cases f with
  | all fs =>
    obtain ⟨hne, items, hi, hq⟩ := render_all_eq_ok_iff.1 h
    cases hq
    exact readsAsOperator_of_renderFilters (.inl rfl) hi hne
  | any fs =>
    obtain ⟨hne, items, hi, hq⟩ := render_any_eq_ok_iff.1 h
    cases hq
    exact readsAsOperator_of_renderFilters (.inr rfl) hi hne
  | not f =>
    obtain ⟨p, hp, hq⟩ := render_not_eq_ok_iff.1 h
    obtain ⟨l, u, rfl⟩ := render_eq_single hp
    cases hq
    rfl
  | present field expected =>
    cases render_present_eq_ok_iff.1 h
    rfl
  | compare field op w =>
    have ho : op ≠ .eq := fun ho => hf field w (ho ▸ rfl)
    obtain ⟨hw, hq⟩ := (render_compare_eq_ok_iff ho).1 h
    cases hq
    exact (nestsOperator_operator ho).trans hw
  | invalid reason => cases h

/-! ## Plain filters -/

end Filter

mutual

/-- Whether no equality in a filter reads as an operator. -/
def Filter.plain : Filter → Bool
  | .all fs => plainFilters fs
  | .any fs => plainFilters fs
  | .not f => f.plain
  | .compare field .eq w => !Filter.readsAsOperator field w
  | _ => true

/-- Whether no equality in some filters reads as an operator. -/
def plainFilters : List Filter → Bool
  | [] => true
  | f :: fs => f.plain && plainFilters fs

end

namespace Filter

variable {field : String} {w : Value} {q : Document}

/-- A plain equality has no query document in common with another filter. -/
theorem eq_of_render_eq {g : Filter} (hf : (compare field .eq w).plain = true)
    (hg : g.render = .ok (.single field w)) : g = compare field .eq w := by
  by_cases he : ∃ field' w', g = compare field' .eq w'
  · obtain ⟨field', w', rfl⟩ := he
    cases hg
    rfl
  · have hr := readsAsOperator_of_render hg fun field' w' h => he ⟨field', w', h⟩
    rw [plain, hr] at hf
    cases hf

/-- What the query document of a plain filter that reads as a combination comes from. -/
theorem combination_of_render {g : Filter} {items : List Value}
    (hr : readsAsOperator field (.array items) = true) (hg : g.plain = true)
    (h : g.render = .ok (.single field (.array items))) :
    (field = "$and" ∧ ∃ gs, g = all gs ∧ renderFilters gs = .ok items) ∨
      (field = "$or" ∧ ∃ gs, g = any gs ∧ renderFilters gs = .ok items) ∨
        field = "$nor" ∧ ∃ f p, g = not f ∧ f.render = .ok p ∧ items = [.document p] := by
  cases g with
  | all gs =>
    obtain ⟨-, items', hi, hq⟩ := render_all_eq_ok_iff.1 h
    cases hq
    exact .inl ⟨rfl, gs, rfl, hi⟩
  | any gs =>
    obtain ⟨-, items', hi, hq⟩ := render_any_eq_ok_iff.1 h
    cases hq
    exact .inr (.inl ⟨rfl, gs, rfl, hi⟩)
  | not f =>
    obtain ⟨p, hp, hq⟩ := render_not_eq_ok_iff.1 h
    cases hq
    exact .inr (.inr ⟨rfl, f, p, rfl, hp, rfl⟩)
  | present field' expected => cases render_present_eq_ok_iff.1 h
  | compare field' op w =>
    by_cases ho : op = .eq
    · subst ho
      cases h
      rw [plain, hr] at hg
      cases hg
    · cases ((render_compare_eq_ok_iff ho).1 h).2
  | invalid reason => cases h

/-- What the query document of a plain filter that reads as an operator comes from. -/
theorem comparison_of_render {g : Filter} {key : String} (hr : nestsOperator key w = true)
    (hg : g.plain = true) (h : g.render = .ok (.single field (.document (Document.single key w)))) :
    (∃ op : Comparison, op ≠ .eq ∧ key = op.operator ∧ g = compare field op w) ∨
      ∃ expected, key = "$exists" ∧ w = .bool expected ∧ g = present field expected := by
  cases g with
  | compare field' op w' =>
    by_cases ho : op = .eq
    · subst ho
      cases h
      rw [plain, Document.single, readsAsOperator, hr] at hg
      cases hg
    · obtain ⟨-, hq⟩ := (render_compare_eq_ok_iff ho).1 h
      cases hq
      exact .inl ⟨op, ho, rfl, rfl⟩
  | present field' expected =>
    cases render_present_eq_ok_iff.1 h
    exact .inr ⟨expected, rfl, rfl, rfl⟩
  | all gs =>
    obtain ⟨-, items, -, hq⟩ := render_all_eq_ok_iff.1 h
    cases hq
  | any gs =>
    obtain ⟨-, items, -, hq⟩ := render_any_eq_ok_iff.1 h
    cases hq
  | not f =>
    obtain ⟨p, -, hq⟩ := render_not_eq_ok_iff.1 h
    cases hq
  | invalid reason => cases h

theorem eq_of_render_compare {op : Comparison} {g : Filter} (ho : op ≠ .eq) (hg : g.plain = true)
    (h : (compare field op w).render = .ok q) (h' : g.render = .ok q) :
    compare field op w = g := by
  obtain ⟨hw, rfl⟩ := (render_compare_eq_ok_iff ho).1 h
  rcases comparison_of_render ((nestsOperator_operator ho).trans hw) hg h' with
    ⟨op', -, hop, rfl⟩ | ⟨expected, hop, -⟩
  · rw [Comparison.operator_inj hop]
  · exact absurd hop op.operator_ne_exists

theorem eq_of_render_present {expected : Bool} {g : Filter} (hg : g.plain = true)
    (h : (present field expected).render = .ok q) (h' : g.render = .ok q) :
    present field expected = g := by
  cases render_present_eq_ok_iff.1 h
  rcases comparison_of_render rfl hg h' with ⟨op, -, hop, -⟩ | ⟨expected', -, hw, rfl⟩
  · exact absurd hop.symm op.operator_ne_exists
  · cases hw
    rfl

theorem eq_of_render_mutual :
    (∀ f : Filter, ∀ (g : Filter) (q : Document), f.plain = true → g.plain = true →
      f.render = .ok q → g.render = .ok q → f = g) ∧
      ∀ (fs gs : List Filter) (items : List Value), plainFilters fs = true →
        plainFilters gs = true → renderFilters fs = .ok items → renderFilters gs = .ok items →
          fs = gs := by
  apply render.mutual_induct
  case case1 =>
    intro fs ih g q hf hg h h'
    obtain ⟨hne, items, hi, rfl⟩ := render_all_eq_ok_iff.1 h
    have hr := readsAsOperator_of_renderFilters (.inl rfl) hi hne
    rcases combination_of_render hr hg h' with ⟨-, gs, rfl, hi'⟩ | ⟨hk, -⟩ | ⟨hk, -⟩
    · rw [ih gs items hf hg hi hi']
    · simp at hk
    · simp at hk
  case case2 =>
    intro fs ih g q hf hg h h'
    obtain ⟨hne, items, hi, rfl⟩ := render_any_eq_ok_iff.1 h
    have hr := readsAsOperator_of_renderFilters (.inr rfl) hi hne
    rcases combination_of_render hr hg h' with ⟨hk, -⟩ | ⟨-, gs, rfl, hi'⟩ | ⟨hk, -⟩
    · simp at hk
    · rw [ih gs items hf hg hi hi']
    · simp at hk
  case case3 =>
    intro f ih g q hf hg h h'
    obtain ⟨p, hp, rfl⟩ := render_not_eq_ok_iff.1 h
    obtain ⟨k, v, rfl⟩ := render_eq_single hp
    rcases combination_of_render rfl hg h' with ⟨hk, -⟩ | ⟨hk, -⟩ | ⟨-, f', p', rfl, hp', hi⟩
    · simp at hk
    · simp at hk
    · cases hi
      rw [ih f' _ hf hg hp hp']
  case case4 => exact fun _ _ g q _ hg h h' => eq_of_render_present hg h h'
  case case5 =>
    intro field op w g q hf hg h h'
    by_cases ho : op = .eq
    · subst ho
      cases h
      exact (eq_of_render_eq hf h').symm
    · exact eq_of_render_compare ho hg h h'
  case case6 =>
    intro reason g q _ _ h
    cases h
  case case7 =>
    intro gs items _ _ h h'
    cases gs with
    | nil => rfl
    | cons g gs =>
      cases h
      obtain ⟨p, ps, -, -, hi⟩ := renderFilters_cons_eq_ok_iff.1 h'
      cases hi
  case case8 =>
    intro f fs ihf ihfs gs items hf hg h h'
    obtain ⟨p, ps, hp, hps, rfl⟩ := renderFilters_cons_eq_ok_iff.1 h
    cases gs with
    | nil => cases h'
    | cons g gs =>
      obtain ⟨p', ps', hp', hps', hi⟩ := renderFilters_cons_eq_ok_iff.1 h'
      cases hi
      rw [plainFilters, Bool.and_eq_true] at hf hg
      rw [ihf g p hf.1 hg.1 hp hp', ihfs gs ps hf.2 hg.2 hps hps']

/-- **Query documents of plain filters.** No two plain filters have the same one. -/
theorem eq_of_render {f g : Filter} (hf : f.plain = true) (hg : g.plain = true)
    (h : f.render = .ok q) (h' : g.render = .ok q) : f = g :=
  eq_of_render_mutual.1 f g q hf hg h h'

end Filter

end DocumentDb
