import DocumentDb.Proofs.Expression.Reading

/-!
# The paths that an expression reads

The value of an expression depends on the document at the paths that it names and nowhere else
(`Expression.evaluate_congr`). An operator may refuse its arguments, so this is said of the outcome,
value or error.
-/

namespace DocumentDb

mutual

/-- The paths that an expression reads. -/
def Expression.paths : Expression → List String
  | .literal _ => []
  | .path name => [name]
  | .operator _ argument => argument.paths
  | .object entries => pathsOfEntries entries
  | .array items => pathsOfItems items
  | .invalid _ => []

/-- The paths that some expressions read. -/
def pathsOfItems : List Expression → List String
  | [] => []
  | e :: es => e.paths ++ pathsOfItems es

/-- The paths that the expressions of some entries read. -/
def pathsOfEntries : List (String × Expression) → List String
  | [] => []
  | (_, e) :: es => e.paths ++ pathsOfEntries es

end

namespace Expression

variable {d d' : Document} {e : Expression}

/-- The arguments that an expression gives to an operator are told by its value. -/
theorem arguments_congr (h : e.evaluate d = e.evaluate d') : e.arguments d = e.arguments d' := by
  by_cases ha : ∃ items, e = array items
  · obtain ⟨items, rfl⟩ := ha
    rw [evaluate, evaluate] at h
    rw [arguments, arguments]
    cases hi : evaluateItems d items <;> cases hi' : evaluateItems d' items <;>
      rw [hi, hi'] at h <;> cases h <;> rfl
  · have hne (items : List Expression) : e ≠ array items := fun he => ha ⟨items, he⟩
    rw [arguments_of_ne_array hne, arguments_of_ne_array hne, evaluateOrNull, evaluateOrNull, h]

theorem evaluate_congr_mutual (d d' : Document) :
    (∀ e : Expression, (∀ p ∈ e.paths, d.lookup p = d'.lookup p) →
      e.evaluate d = e.evaluate d') ∧
      (∀ es, (∀ p ∈ pathsOfItems es, d.lookup p = d'.lookup p) →
        evaluateItems d es = evaluateItems d' es) ∧
        ∀ es, (∀ p ∈ pathsOfEntries es, d.lookup p = d'.lookup p) → ∀ into,
          evaluateEntries d into es = evaluateEntries d' into es := by
  apply paths.mutual_induct
  case case1 | case6 => exact fun _ _ => rfl
  case case2 =>
    intro name h
    rw [evaluate, evaluate, h name (List.mem_singleton_self name)]
  case case3 =>
    intro name argument ih h
    have ha := ih h
    by_cases hl : name = "$literal"
    · rw [evaluate, evaluate, if_pos hl, if_pos hl, ha]
    · rw [evaluate_operator hl, evaluate_operator hl, arguments_congr ha]
  case case4 =>
    intro entries ih h
    rw [evaluate, evaluate, ih h]
  case case5 =>
    intro items ih h
    rw [evaluate, evaluate, ih h]
  case case7 => exact fun _ _ => rfl
  case case8 =>
    intro k e es ihe ihes h into
    rw [pathsOfEntries, List.forall_mem_append] at h
    rw [evaluateEntries, evaluateEntries, ihe h.1]
    refine bind_congr fun v => ?_
    cases v with
    | none => exact ihes h.2 into
    | some v => exact ihes h.2 (into.insert k v)
  case case9 => exact fun _ => rfl
  case case10 =>
    intro e es ihe ihes h
    rw [pathsOfItems, List.forall_mem_append] at h
    rw [evaluateItems, evaluateItems, ihe h.1, ihes h.2]

/-- **An expression has the same outcome** on documents that hold the same at its paths. -/
theorem evaluate_congr (h : ∀ p ∈ e.paths, d.lookup p = d'.lookup p) :
    e.evaluate d = e.evaluate d' :=
  (evaluate_congr_mutual d d').1 e h

end Expression

end DocumentDb
