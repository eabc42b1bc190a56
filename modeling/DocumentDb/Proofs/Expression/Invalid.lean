import DocumentDb.Proofs.Expression.Reading
import DocumentDb.Proofs.Result

/-!
# Operands that could not be encoded

An operand that could not be encoded stays in its expression, and three recursions come upon it: the
search for the first one, rendering and evaluating.

**Rendering** (`failure?_render`). Of two steps the first one that fails gives the error, as the
search takes the first reason of two expressions. So rendering fails with the reason that the search
finds.

**Evaluating** (`fails_evaluate`). Another fault may come first, such as an argument of the wrong
kind. But no operator is applied before all its arguments have a value, so none can pass over an
operand.

**Theorem (`invalid_operand_noticed`).** An expression is refused by rendering exactly if it has
such an operand, for the reason of the first one, and then it has no value on any document.
-/

namespace DocumentDb

namespace Expression

variable {d : Document} {e : Expression}

/-! ## Rendering -/

theorem failure?_render_mutual :
    (∀ e : Expression, failure? e.render = e.invalidReason?.map .invalidOperand) ∧
      (∀ es, failure? (renderExpressions es) = (invalidReasonOfItems? es).map .invalidOperand) ∧
        ∀ es, ∀ into, failure? (renderExpressionEntries into es) =
          (invalidReasonOfEntries? es).map .invalidOperand := by
  apply invalidReason?.mutual_induct
  case case1 | case2 | case6 => exact fun _ => rfl
  case case3 =>
    intro name argument ih
    rw [render, failure?_bind_pure, ih, invalidReason?]
  case case4 =>
    intro entries ih
    rw [render, failure?_bind_pure, ih, invalidReason?]
  case case5 =>
    intro items ih
    rw [render, failure?_bind_pure, ih, invalidReason?]
  case case7 => exact fun _ => rfl
  case case8 =>
    intro k e es ihe ihes into
    rw [renderExpressionEntries, failure?_bind fun v => ihes (into.insert k v), ihe,
      invalidReasonOfEntries?, Option.map_or]
  case case9 => rfl
  case case10 =>
    intro e es ihe ihes
    rw [renderExpressions, failure?_bind fun v => (failure?_bind_pure _ (v :: ·)).trans ihes, ihe,
      invalidReasonOfItems?, Option.map_or]

/-- Rendering fails with the reason of the first operand that could not be encoded. -/
theorem failure?_render (e : Expression) :
    failure? e.render = e.invalidReason?.map .invalidOperand :=
  failure?_render_mutual.1 e

/-! ## Evaluating -/

/-- Arguments have no values if the whole argument has none. -/
theorem fails_arguments (h : Fails (e.evaluate d)) : Fails (e.arguments d) := by
  by_cases ha : ∃ items, e = array items
  · obtain ⟨items, rfl⟩ := ha
    obtain ⟨err, h⟩ := h
    exact ⟨err, bind_pure_eq_error_iff.1 h⟩
  · rw [arguments_of_ne_array fun items he => ha ⟨items, he⟩, evaluateOrNull]
    exact (h.bind _).bind _

theorem fails_evaluate_mutual (d : Document) :
    (∀ e : Expression, e.invalidReason?.isSome → Fails (e.evaluate d)) ∧
      (∀ es, (invalidReasonOfItems? es).isSome → Fails (evaluateItems d es)) ∧
        ∀ es, (invalidReasonOfEntries? es).isSome → ∀ into,
          Fails (evaluateEntries d into es) := by
  apply invalidReason?.mutual_induct
  case case1 | case2 =>
    intro _ h
    cases h
  case case3 =>
    intro name argument ih h
    have harg := ih h
    by_cases hl : name = "$literal"
    · rw [evaluate, if_pos hl]
      exact harg.bind _
    · rw [evaluate_operator hl]
      exact (fails_arguments harg).bind _
  case case4 =>
    intro entries ih h
    rw [evaluate]
    exact (ih h []).bind _
  case case5 =>
    intro items ih h
    rw [evaluate]
    exact (ih h).bind _
  case case6 => exact fun reason _ => ⟨_, rfl⟩
  case case7 | case9 =>
    intro h
    cases h
  case case8 =>
    intro k e es ihe ihes h into
    rw [invalidReasonOfEntries?, Option.isSome_or, Bool.or_eq_true] at h
    rw [evaluateEntries]
    rcases h with h | h
    · exact (ihe h).bind _
    · refine .bind_right (fun o => ?_) _
      cases o with
      | none => exact ihes h into
      | some v => exact ihes h (into.insert k v)
  case case10 =>
    intro e es ihe ihes h
    rw [invalidReasonOfItems?, Option.isSome_or, Bool.or_eq_true] at h
    rw [evaluateItems]
    rcases h with h | h
    · exact (ihe h).bind _
    · exact .bind_right (fun v => (ihes h).bind _) _

/-- An expression with an operand that could not be encoded has no value. -/
theorem fails_evaluate (h : e.invalidReason?.isSome) (d : Document) : Fails (e.evaluate d) :=
  (fails_evaluate_mutual d).1 e h

/-! ## Main result -/

/-- **Operands that could not be encoded do not go unnoticed.** Rendering an expression fails
exactly if some operand in it could not be encoded, and the error gives the reason of the first one.
Then the expression cannot be evaluated either, whatever the document is and whichever operators
stand around the operand. -/
theorem invalid_operand_noticed (e : Expression) :
    (∀ err, e.render = .error err ↔
      ∃ reason, e.invalidReason? = some reason ∧ err = .invalidOperand reason) ∧
      ∀ reason, e.invalidReason? = some reason → ∀ d, ∃ err, e.evaluate d = .error err := by
  refine ⟨fun err => ?_, fun reason h d => fails_evaluate (h ▸ rfl) d⟩
  rw [← failure?_eq_some_iff, failure?_render, Option.map_eq_some_iff]
  simp only [eq_comm]

/-- The first of two operands is found behind a value with which the operator could have stopped. -/
theorem invalid_operand_noticed_behind_value :
    let e : Expression := .operator "$ifNull" (.array [.literal (.int32 1),
      .operator "$literal" (.object [("a", .path "x"), ("b", .invalid "bad")]), .invalid "worse"])
    e.invalidReason? = some "bad" ∧ e.render = .error (.invalidOperand "bad") ∧
      ∀ d, ∃ err, e.evaluate d = .error err := by
  intro e
  have he : e.invalidReason? = some "bad" := rfl
  obtain ⟨hrender, hevaluate⟩ := invalid_operand_noticed e
  exact ⟨he, (hrender _).2 ⟨"bad", he, rfl⟩, hevaluate "bad" he⟩

end Expression

end DocumentDb
