import DocumentDb.Proofs.Value.Keyed
import DocumentDb.Value.Same

/-!
# Values without NaN

A value is the same as itself unless it holds a NaN (`KeyedValue.same_self`). This needs that the
documents in it are maps: the look-up of a key that is there twice finds the first entry only.

A document without NaN holds none under an identifier either.
-/

namespace DocumentDb

/-! ## What a value holds -/

mutual

/-- Whether a value holds a NaN, at any depth. -/
def Value.hasNaN : Value → Bool
  | .double x => x.isNaN
  | .array items => itemsHaveNaN items
  | .document entries | .codeWithScope _ entries => entriesHaveNaN entries
  | _ => false

/-- Whether one of some items holds a NaN. -/
def itemsHaveNaN : List Value → Bool
  | [] => false
  | v :: vs => v.hasNaN || itemsHaveNaN vs

/-- Whether the value of one of some entries holds a NaN. -/
def entriesHaveNaN : List (String × Value) → Bool
  | [] => false
  | (_, v) :: es => v.hasNaN || entriesHaveNaN es

end

/-! ## Sameness with itself -/

theorem Binary64.numericEq_self (x : Binary64) : x.numericEq x = !x.isNaN := by
  simp [numericEq]

theorem same_self_mutual :
    (∀ v : Value, v.keyed = true → v.same v = !v.hasNaN) ∧
      (∀ es, entriesKeyed es = true → ∀ fs, (∀ e ∈ es, Assoc.get? fs e.1 = some e.2) →
        sameEntries es fs = !entriesHaveNaN es) ∧
        ∀ vs, itemsKeyed vs = true → sameItems vs vs = !itemsHaveNaN vs := by
  apply Value.hasNaN.mutual_induct
  case case1 => exact fun x _ => Binary64.numericEq_self x
  case case2 => exact fun items ih h => ih h
  case case3 =>
    intro es ih h
    rw [Value.keyed, Bool.and_eq_true, decide_eq_true_eq] at h
    rw [Value.same, Value.hasNaN, beq_self_eq_true, Bool.true_and]
    exact ih h.2 es fun e he => Assoc.get?_of_mem h.1 he
  case case4 =>
    intro source es ih h
    rw [Value.keyed, Bool.and_eq_true, decide_eq_true_eq] at h
    rw [Value.same, Value.hasNaN, beq_self_eq_true, beq_self_eq_true, Bool.true_and, Bool.true_and]
    exact ih h.2 es fun e he => Assoc.get?_of_mem h.1 he
  case case5 =>
    intro v hd ha he hc _
    cases v with
    | double x => exact (hd x rfl).elim
    | array items => exact (ha items rfl).elim
    | document es => exact (he es rfl).elim
    | codeWithScope s es => exact (hc s es rfl).elim
    | _ => simp [Value.same, Value.hasNaN]
  case case6 => exact fun _ => rfl
  case case7 =>
    intro v vs ihv ihvs h
    rw [itemsKeyed, Bool.and_eq_true] at h
    rw [sameItems, itemsHaveNaN, ihv h.1, ihvs h.2, Bool.not_or]
  case case8 => exact fun _ _ _ => rfl
  case case9 =>
    intro k v es ihv ihes h fs hfs
    rw [entriesKeyed, Bool.and_eq_true] at h
    obtain ⟨hv, hes⟩ := List.forall_mem_cons.1 hfs
    rw [sameEntries, entriesHaveNaN, hv, ihes h.2 fs hes, Bool.not_or]
    exact congrArg (· && _) (ihv h.1)

/-- A value is the same as itself exactly if it holds no NaN. -/
theorem KeyedValue.same_self (v : KeyedValue) : v.value.same v.value = !v.value.hasNaN :=
  same_self_mutual.1 v.value v.keyed

/-! ## Documents under identifiers -/

theorem entriesHaveNaN_eq_any (es : List (String × Value)) :
    entriesHaveNaN es = es.any (·.2.hasNaN) := by
  induction es with
  | nil => rfl
  | cons e es ih => rw [entriesHaveNaN, ih, List.any_cons]

namespace Document

/-- Whether a document holds a NaN. -/
def hasNaN (d : Document) : Bool :=
  (Value.document d).hasNaN

theorem hasNaN_withId {d : Document} (h : d.hasNaN = false) (id : String) :
    (d.withId id).hasNaN = false := by
  simp only [hasNaN, Value.hasNaN, entriesHaveNaN_eq_any, List.any_eq_false] at h ⊢
  intro e he
  rcases mem_of_mem_withId he with rfl | he
  · simp [Value.hasNaN]
  · exact h e he

end Document

/-- A document that holds no NaN is the same as itself under any identifier. -/
theorem KeyedDocument.same_self_withId (d : KeyedDocument) (h : d.document.hasNaN = false)
    (id : String) : (d.document.withId id).same (d.document.withId id) = true :=
  (d.withId id).toValue.same_self.trans (by
    rw [Bool.not_eq_true']
    exact Document.hasNaN_withId h id)

end DocumentDb
