import DocumentDb.Expression.Render
import DocumentDb.Proofs.Result
import Mathlib.Data.List.Forall2

/-!
# What expressions are rendered as

The lemmas `render_…_eq_ok_iff` say for each kind of expression which value it is rendered as. A
document expression whose keys are all different is rendered entry by entry, in its own order
(`forall₂_of_renderExpressionEntries`). Facts about all expressions go by `induct`.
-/

namespace DocumentDb

namespace Expression

/-- What passes from arguments, items and the expressions of entries to the whole holds of every
expression. -/
@[elab_as_elim]
theorem induct {motive : Expression → Prop} (literal : ∀ v, motive (.literal v))
    (path : ∀ name, motive (.path name))
    (operator : ∀ name argument, motive argument → motive (.operator name argument))
    (object : ∀ entries, (∀ p ∈ entries, motive p.2) → motive (.object entries))
    (array : ∀ items, (∀ e ∈ items, motive e) → motive (.array items))
    (invalid : ∀ reason, motive (.invalid reason)) (e : Expression) : motive e :=
  @Expression.rec motive (fun entries => ∀ p ∈ entries, motive p.2)
    (fun items => ∀ e ∈ items, motive e) (fun p => motive p.2)
    literal path operator object array invalid
    (by simp) (fun _ _ hp hps => List.forall_mem_cons.2 ⟨hp, hps⟩)
    (by simp) (fun _ _ he hes => List.forall_mem_cons.2 ⟨he, hes⟩) (fun _ _ h => h) e

variable {e : Expression} {es : List Expression} {q : Value}

theorem render_literal_eq_ok_iff {v : Value} :
    (literal v).render = .ok q ↔ q = renderLiteral v := by
  rw [render, Except.ok.injEq, eq_comm]

theorem render_path_eq_ok_iff {name : String} :
    (path name).render = .ok q ↔ q = .string ("$" ++ name) := by
  rw [render, Except.ok.injEq, eq_comm]

theorem render_operator_eq_ok_iff {name : String} :
    (operator name e).render = .ok q ↔
      ∃ v, e.render = .ok v ∧ q = .document (Document.single name v) := by
  rw [render, bind_pure_eq_ok_iff]

theorem render_object_eq_ok_iff {entries : List (String × Expression)} :
    (object entries).render = .ok q ↔
      ∃ d, renderExpressionEntries [] entries = .ok d ∧ q = .document d := by
  rw [render, bind_pure_eq_ok_iff]

theorem render_array_eq_ok_iff :
    (array es).render = .ok q ↔ ∃ vs, renderExpressions es = .ok vs ∧ q = .array vs := by
  rw [render, bind_pure_eq_ok_iff]

theorem renderExpressions_cons_eq_ok_iff {vs : List Value} :
    renderExpressions (e :: es) = .ok vs ↔
      ∃ w ws, e.render = .ok w ∧ renderExpressions es = .ok ws ∧ vs = w :: ws := by
  rw [renderExpressions]
  simp only [bind_eq_ok_iff, pure_eq_ok_iff, exists_and_left]

theorem renderExpressionEntries_cons_eq_ok_iff {d r : Document} {k : String}
    {entries : List (String × Expression)} :
    renderExpressionEntries d ((k, e) :: entries) = .ok r ↔
      ∃ w, e.render = .ok w ∧ renderExpressionEntries (d.insert k w) entries = .ok r := by
  rw [renderExpressionEntries, bind_eq_ok_iff]

/-- A value under a key is what the expression under the same key is rendered as. -/
def EntryRenders (e : String × Expression) (f : String × Value) : Prop :=
  f.1 = e.1 ∧ e.2.render = .ok f.2

/-- Entries under new and different keys are rendered one by one behind what is there. -/
theorem forall₂_of_renderExpressionEntries {entries : Assoc Expression} {d r : Document}
    (hk : (d.keys ++ entries.keys).Nodup) (h : renderExpressionEntries d entries = .ok r) :
    ∃ fs, r = d ++ fs ∧ List.Forall₂ EntryRenders entries fs := by
  induction entries generalizing d with
  | nil =>
    cases h
    exact ⟨[], by simp, .nil⟩
  | cons e entries ih =>
    obtain ⟨k, e⟩ := e
    obtain ⟨w, hw, h⟩ := renderExpressionEntries_cons_eq_ok_iff.1 h
    rw [Assoc.insert_of_not_mem (Assoc.not_mem_keys_of_nodup hk)] at h
    obtain ⟨fs, rfl, hfs⟩ := ih (by simpa [Assoc.keys] using hk) h
    exact ⟨(k, w) :: fs, by simp, .cons ⟨rfl, hw⟩ hfs⟩

end Expression

end DocumentDb
