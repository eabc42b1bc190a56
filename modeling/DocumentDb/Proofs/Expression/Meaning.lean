import DocumentDb.Proofs.Expression.Constant

/-!
# Which rendered values have one meaning

Several expressions can be rendered as one value. A constant array is rendered as the array of what
its items are read as. A document expression with a repeated key is rendered as if only the last
entry under it were there, but all of them are evaluated.

**Settled values** (`Value.settled`) hold no entries and no string that begins with a dollar sign.
Whatever is rendered as a settled value has it as its value on all documents. Entries with a
repeated key are settled too, since no document expression is rendered as them.

**Theorem (`render_determines_value`).** All plain expressions with one rendered form have the same
value on all documents. All expressions with it, plain or not, have the same value exactly if it is
settled or a string. As a constant it is read back as itself exactly if it is plain.
-/

namespace DocumentDb

mutual

/-- Whether a value is the value of whatever is rendered as it. -/
def Value.settled : Value → Bool
  | .string s => !startsWithDollar s
  | .array items => settledItems items
  | .document entries => entries.isEmpty || !decide (Assoc.keys entries).Nodup
  | _ => true

/-- Whether all items are settled. -/
def settledItems : List Value → Bool
  | [] => true
  | v :: vs => v.settled && settledItems vs

end

namespace Expression

variable {d r into : Document} {e : Expression} {v w : Value}

/-! ## What is rendered as a settled value -/

theorem settled_single (k : String) (w : Value) :
    (Value.document (Document.single k w)).settled = false := by
  simp [Value.settled, Document.single, Assoc.keys]

theorem eq_of_renderLiteral (hv : v.settled = true) (h : v = renderLiteral w) : w = v := by
  subst h
  cases w with
  | string s =>
    rw [renderLiteral] at hv ⊢
    split
    · next hs =>
      rw [if_pos hs, markLiteral, settled_single] at hv
      cases hv
    · rfl
  | _ => rfl

theorem nodup_keys_of_renderExpressionEntries {entries : List (String × Expression)}
    (hk : into.keys.Nodup) (h : renderExpressionEntries into entries = .ok r) : r.keys.Nodup := by
  induction entries generalizing into with
  | nil =>
    cases h
    exact hk
  | cons e entries ih =>
    obtain ⟨w, -, h⟩ := renderExpressionEntries_cons_eq_ok_iff.1 h
    exact ih (Assoc.nodup_keys_insert hk _ w) h

theorem mem_keys_of_renderExpressionEntries {entries : List (String × Expression)} {k : String}
    (hk : k ∈ into.keys) (h : renderExpressionEntries into entries = .ok r) : k ∈ r.keys := by
  induction entries generalizing into with
  | nil =>
    cases h
    exact hk
  | cons e entries ih =>
    obtain ⟨w, -, h⟩ := renderExpressionEntries_cons_eq_ok_iff.1 h
    exact ih (Assoc.mem_keys_insert.2 (.inr hk)) h

/-- Of all document expressions, only the empty one is rendered as a settled value. -/
theorem eq_nil_of_render_settled {entries : List (String × Expression)}
    (hr : (Value.document r).settled = true) (h : renderExpressionEntries [] entries = .ok r) :
    entries = [] ∧ r = [] := by
  have hk := nodup_keys_of_renderExpressionEntries (by simp [Assoc.keys]) h
  rw [Value.settled, decide_eq_true hk, Bool.not_true, Bool.or_false, List.isEmpty_iff] at hr
  subst hr
  cases entries with
  | nil => exact ⟨rfl, rfl⟩
  | cons e entries =>
    obtain ⟨w, -, h⟩ := renderExpressionEntries_cons_eq_ok_iff.1 h
    have := mem_keys_of_renderExpressionEntries (Assoc.mem_keys_insert.2 (.inl rfl)) h
    simp [Assoc.keys] at this

theorem evaluateItems_of_settled {es : List Expression} {vs : List Value}
    (ih : ∀ e ∈ es, ∀ w : Value, w.settled = true → e.render = .ok w →
      e.evaluate d = .ok (some w))
    (hvs : settledItems vs = true) (h : renderExpressions es = .ok vs) :
    evaluateItems d es = .ok vs := by
  induction es generalizing vs with
  | nil =>
    cases h
    rfl
  | cons e es ihes =>
    obtain ⟨he, hes⟩ := List.forall_mem_cons.1 ih
    obtain ⟨w, ws, hw, hws, rfl⟩ := renderExpressions_cons_eq_ok_iff.1 h
    rw [settledItems, Bool.and_eq_true] at hvs
    rw [evaluateItems, he w hvs.1 hw, ihes hes hvs.2 hws]
    rfl

/-- Whatever is rendered as a settled value has it as its value. -/
theorem evaluate_of_settled (d : Document) (hv : v.settled = true) (h : e.render = .ok v) :
    e.evaluate d = .ok (some v) := by
  induction e using induct generalizing v with
  | literal w => rw [eq_of_renderLiteral hv (render_literal_eq_ok_iff.1 h), evaluate]
  | path name =>
    rw [render_path_eq_ok_iff.1 h, Value.settled, startsWithDollar_dollar] at hv
    cases hv
  | operator name argument _ =>
    obtain ⟨w, -, rfl⟩ := render_operator_eq_ok_iff.1 h
    rw [settled_single] at hv
    cases hv
  | object entries _ =>
    obtain ⟨r, hr, rfl⟩ := render_object_eq_ok_iff.1 h
    obtain ⟨rfl, rfl⟩ := eq_nil_of_render_settled hv hr
    rfl
  | array items ih =>
    obtain ⟨vs, hvs, rfl⟩ := render_array_eq_ok_iff.1 h
    rw [evaluate, evaluateItems_of_settled (fun e he w => ih e he) hv hvs]
    rfl
  | invalid reason => cases h

/-- A string is rendered from plain expressions only. -/
theorem plain_of_render_string {s : String} (h : e.render = .ok (.string s)) :
    e.plain = true := by
  cases e with
  | literal w =>
    have hw := render_literal_eq_ok_iff.1 h
    cases w with
    | string t => rfl
    | _ => simp [renderLiteral] at hw
  | path name => rfl
  | operator name argument =>
    obtain ⟨w, -, hw⟩ := render_operator_eq_ok_iff.1 h
    cases hw
  | object entries =>
    obtain ⟨r, -, hr⟩ := render_object_eq_ok_iff.1 h
    cases hr
  | array items =>
    obtain ⟨vs, -, hvs⟩ := render_array_eq_ok_iff.1 h
    cases hvs
  | invalid reason => cases h

/-! ## What is rendered as any other value -/

theorem render_literal_of_ne_string (h : ¬ ∃ s, v = .string s) : (literal v).render = .ok v := by
  cases v with
  | string s => exact absurd ⟨s, rfl⟩ h
  | _ => rfl

/-- Every value is rendered from the path that it reads as, if it is a string, or else from
itself. -/
theorem exists_render (v : Value) : ∃ e : Expression, e.render = .ok v := by
  by_cases hv : ∃ s, v = .string s
  · obtain ⟨s, rfl⟩ := hv
    cases hs : startsWithDollar s with
    | true =>
      obtain ⟨name, rfl⟩ := exists_eq_dollar hs
      exact ⟨path name, rfl⟩
    | false => exact ⟨literal (.string s), by rw [render, renderLiteral, hs]; rfl⟩
  · exact ⟨literal v, render_literal_of_ne_string hv⟩

theorem exists_entryRenders (entries : Document) :
    ∃ es, List.Forall₂ EntryRenders es entries := by
  induction entries with
  | nil => exact ⟨[], .nil⟩
  | cons e entries ih =>
    obtain ⟨es, hes⟩ := ih
    obtain ⟨f, hf⟩ := exists_render e.2
    exact ⟨(e.1, f) :: es, .cons ⟨rfl, hf⟩ hes⟩

theorem exists_renderExpressions (vs : List Value) : ∃ es, renderExpressions es = .ok vs := by
  induction vs with
  | nil => exact ⟨[], rfl⟩
  | cons v vs ih =>
    obtain ⟨es, hes⟩ := ih
    obtain ⟨e, he⟩ := exists_render v
    exact ⟨e :: es, renderExpressions_cons_eq_ok_iff.2 ⟨v, vs, he, hes, rfl⟩⟩

/-- New and different entries are rendered one by one behind what is there. -/
theorem renderExpressionEntries_of_forall₂ {entries : Assoc Expression} {fs : Document}
    (hk : (into.keys ++ fs.keys).Nodup) (h : List.Forall₂ EntryRenders entries fs) :
    renderExpressionEntries into entries = .ok (into ++ fs) := by
  induction h generalizing into with
  | nil => rw [renderExpressionEntries, List.append_nil]
  | @cons e f es fs he hes ih =>
    obtain ⟨k, e⟩ := e
    obtain ⟨l, w⟩ := f
    obtain ⟨rfl, hw⟩ := he
    refine renderExpressionEntries_cons_eq_ok_iff.2 ⟨w, hw, ?_⟩
    rw [Assoc.insert_of_not_mem (Assoc.not_mem_keys_of_nodup hk),
      ih (by simpa [Assoc.keys] using hk)]
    simp

/-- A document that is not empty is rendered also from an expression that cannot be evaluated: its
first key is repeated, and stands for an unknown operator at first. -/
theorem exists_unlike_document {k : String} {w : Value} {fs : Document}
    (hk : (Assoc.keys ((k, w) :: fs)).Nodup) :
    ∃ e : Expression, e.render = .ok (.document ((k, w) :: fs)) ∧
      ∃ err, e.evaluate [] = .error err := by
  obtain ⟨e, he⟩ := exists_render w
  obtain ⟨es, hes⟩ := exists_entryRenders fs
  let bad := operator "" (literal .null)
  refine ⟨object ((k, bad) :: (k, e) :: es), ?_, ⟨_, rfl⟩⟩
  refine render_object_eq_ok_iff.2 ⟨(k, w) :: fs, ?_, rfl⟩
  refine renderExpressionEntries_cons_eq_ok_iff.2 ⟨_, rfl, ?_⟩
  refine renderExpressionEntries_cons_eq_ok_iff.2 ⟨w, he, ?_⟩
  rw [Assoc.insert_insert]
  exact renderExpressionEntries_of_forall₂ hk hes

theorem exists_unlike_mutual :
    (∀ v : Value, v.settled = false →
        ∃ e : Expression, e.render = .ok v ∧ e.evaluateOrNull [] ≠ .ok v) ∧
      ∀ vs, settledItems vs = false →
        ∃ es, renderExpressions es = .ok vs ∧ evaluateItems [] es ≠ .ok vs := by
  apply Value.settled.mutual_induct
  case case1 =>
    intro s h
    rw [Value.settled, Bool.not_eq_false'] at h
    obtain ⟨name, rfl⟩ := exists_eq_dollar h
    refine ⟨path name, rfl, ?_⟩
    rw [evaluateOrNull, evaluate, Document.lookup_nil]
    intro h
    cases h
  case case2 =>
    intro items ih h
    obtain ⟨es, hes, hne⟩ := ih h
    refine ⟨array es, render_array_eq_ok_iff.2 ⟨items, hes, rfl⟩, fun he => hne ?_⟩
    obtain ⟨o, ho, hv⟩ := bind_pure_eq_ok_iff.1 he
    obtain ⟨us, hus, rfl⟩ := evaluate_array_eq_ok_iff.1 ho
    cases hv
    exact hus
  case case3 =>
    intro entries h
    simp only [Value.settled, Bool.or_eq_false_iff, Bool.not_eq_false', decide_eq_true_eq] at h
    cases entries with
    | nil => cases h.1
    | cons f fs =>
      obtain ⟨e, he, err, herr⟩ := exists_unlike_document h.2
      refine ⟨e, he, fun h => ?_⟩
      rw [evaluateOrNull, herr] at h
      cases h
  case case4 =>
    intro v hs ha hd h
    rw [Value.settled] at h
    · cases h
    all_goals assumption
  case case5 =>
    intro h
    cases h
  case case6 =>
    intro v vs ihv ihvs h
    rw [settledItems, Bool.and_eq_false_iff] at h
    rcases h with h | h
    · obtain ⟨e, he, hne⟩ := ihv h
      obtain ⟨es, hes⟩ := exists_renderExpressions vs
      refine ⟨e :: es, renderExpressions_cons_eq_ok_iff.2 ⟨v, vs, he, hes, rfl⟩, fun h => hne ?_⟩
      obtain ⟨w, ws, hw, -, ⟨⟩⟩ := evaluateItems_cons_eq_ok_iff.1 h
      exact hw
    · obtain ⟨e, he⟩ := exists_render v
      obtain ⟨es, hes, hne⟩ := ihvs h
      refine ⟨e :: es, renderExpressions_cons_eq_ok_iff.2 ⟨v, vs, he, hes, rfl⟩, fun h => hne ?_⟩
      obtain ⟨w, ws, -, hws, ⟨⟩⟩ := evaluateItems_cons_eq_ok_iff.1 h
      exact hws

/-- If all expressions that are rendered as a value agree with it as a constant, it is settled. -/
theorem settled_of_determined (hs : ¬ ∃ s, v = .string s)
    (h : ∀ e f : Expression, e.render = .ok v → f.render = .ok v →
      ∀ d, (e.evaluate d).toOption = (f.evaluate d).toOption) : v.settled = true := by
  cases hv : v.settled with
  | true => rfl
  | false =>
    obtain ⟨e, he, hne⟩ := exists_unlike_mutual.1 v hv
    have hlit := h e (literal v) he (render_literal_of_ne_string hs) []
    cases ho : e.evaluate [] with
    | error err =>
      rw [ho] at hlit
      cases hlit
    | ok o =>
      rw [ho] at hlit
      exact absurd (bind_pure_eq_ok_iff.2 ⟨o, ho, by rw [Option.some.inj hlit]; rfl⟩) hne

/-! ## Main result -/

/-- **When a rendered value has one meaning.** Plain expressions that are rendered as it have the
same value on all documents. All expressions that are rendered as it, plain or not, have the same
value, or none, exactly if it is settled or a string. As a constant it is read back as itself
exactly if it is plain. -/
theorem render_determines_value (q : Value) :
    (∀ e f : Expression, e.plain = true → f.plain = true → e.render = .ok q → f.render = .ok q →
      ∀ d, e.evaluate d = f.evaluate d) ∧
    ((∀ e f : Expression, e.render = .ok q → f.render = .ok q →
        ∀ d, (e.evaluate d).toOption = (f.evaluate d).toOption) ↔
      q.settled = true ∨ ∃ s, q = .string s) ∧
    ((literal q).plain = true ↔ ∀ d, (read (renderLiteral q)).evaluate d = .ok (some q)) := by
  have hplain (e f : Expression) (he : e.plain = true) (hf : f.plain = true)
      (heq : e.render = .ok q) (hfq : f.render = .ok q) (d : Document) :
      e.evaluate d = f.evaluate d := by
    rw [← (evaluate_read_mutual d).1 e he q heq, (evaluate_read_mutual d).1 f hf q hfq]
  refine ⟨hplain, ⟨fun h => ?_, ?_⟩, plain_literal_iff⟩
  · by_cases hs : ∃ s, q = .string s
    · exact .inr hs
    · exact .inl (settled_of_determined hs h)
  · rintro (hq | ⟨s, rfl⟩) e f he hf d
    · rw [evaluate_of_settled d hq he, evaluate_of_settled d hq hf]
    · rw [hplain e f (plain_of_render_string he) (plain_of_render_string hf) he hf d]

/-- An array of a constant string that begins with a dollar sign, and of the path that the string
reads as, are rendered alike and have different values. -/
theorem render_not_injective_on_values :
    ¬ ∀ (e f : Expression) (q : Value), e.render = .ok q → f.render = .ok q →
      ∀ d, (e.evaluate d).toOption = (f.evaluate d).toOption := by
  intro h
  have := h (literal (.array [.string "$a"])) (array [path "a"]) (.array [.string "$a"]) rfl rfl []
  simp [evaluate, evaluateItems, Document.lookup_nil, Except.toOption, bind, Except.bind, pure,
    Except.pure] at this

end Expression

end DocumentDb
