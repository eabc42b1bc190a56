import DocumentDb.Filter.Match
import DocumentDb.Proofs.Value.Measured

/-!
# Inclusive comparisons

An inclusive comparison, `gte` or `lte`, is named after the strict one and equality, and should
hold where one of the two does.

**What a field offers** (`Value.offered`) to a comparison are its items if it is an array, its
value if it is anything else, and nothing if it is missing. The order comparisons ask about what is
offered and about nothing else.

**Equality as a whole** (`Value.equalsWhole`). Equality also takes a missing field for null, and an
array operand for the whole of an array field. The order comparisons do neither.

**Theorem (`includesEquality_iff`).** An inclusive comparison includes equality on a document
exactly if the field does not equal the operand as a whole while the comparison turns it down. So
it does for every operand that is neither null nor an array.
-/

namespace DocumentDb

variable {field : Option Value} {v w : Value}

namespace Value

/-! ## What is compared -/

/-- The values of a field that an operand is compared with. -/
def offered : Option Value → List Value
  | none => []
  | some (array items) => items
  | some v => [v]

/-- Whether a field equals an operand other than by what it offers. -/
def equalsWhole (field : Option Value) (operand : Value) : Bool :=
  match field with
  | none => operand.isNull
  | some (array items) => operand.items?.isSome && (array items).alike operand
  | some _ => false

theorem matchesOrder_eq_any (accept : Ordering → Bool) (field : Option Value) (v : Value) :
    matchesOrder accept field v = (offered field).any (ordered accept v) := by
  fun_cases offered field with
  | case1 | case2 => rfl
  | case3 w hw =>
    cases w with
    | array items => exact (hw items rfl).elim
    | _ => simp [matchesOrder]

theorem matchesEq_eq_or (field : Option Value) (v : Value) :
    matchesEq field v = (equalsWhole field v || (offered field).any (·.alike v)) := by
  fun_cases offered field with
  | case1 => simp [matchesEq, equalsWhole]
  | case2 items => rfl
  | case3 w hw =>
    cases w with
    | array items => exact (hw items rfl).elim
    | _ => simp [matchesEq, equalsWhole]

theorem equalsWhole_cases (field : Option Value) (v : Value) :
    v = null ∨ (∃ items, v = array items) ∨ equalsWhole field v = false := by
  fun_cases equalsWhole field v with
  | case1 => cases v <;> simp [isNull]
  | case2 items => cases v <;> simp [items?]
  | case3 => simp

/-! ## One value -/

theorem sameBracket_of_order_eq (h : v.order w = .eq) : v.sameBracket w = true := by
  rw [order_eq_bracket_then, Ordering.then_eq_eq, Nat.compare_eq_eq] at h
  rw [sameBracket, h.1, beq_self_eq_true]

variable {strict inclusive : Ordering → Bool}

/-- One answer more is accepted by being alike to the operand. -/
theorem ordered_inclusive (h : ∀ o, inclusive o = (strict o || o == .eq)) (operand v : Value) :
    ordered inclusive operand v = (ordered strict operand v || v.alike operand) := by
  rw [ordered, ordered, h, alike]
  cases ho : v.order operand with
  | eq => simp [sameBracket_of_order_eq ho]
  | lt | gt => simp

theorem any_ordered_inclusive (h : ∀ o, inclusive o = (strict o || o == .eq)) (operand : Value)
    (vs : List Value) :
    vs.any (ordered inclusive operand) =
      (vs.any (ordered strict operand) || vs.any (·.alike operand)) := by
  induction vs with
  | nil => rfl
  | cons v vs ih =>
    rw [List.any_cons, List.any_cons, List.any_cons, ih, ordered_inclusive h]
    ac_rfl

end Value

namespace Filter

variable {d : Document} {field : String} {v : Value}

/-! ## One comparison -/

/-- An inclusive comparison holds of a document exactly if the strict one or equality does. -/
def IncludesEquality (strict inclusive : Comparison) (field : String) (v : Value)
    (d : Document) : Prop :=
  (compare field inclusive v).holds d = .ok true ↔
    (compare field strict v).holds d = .ok true ∨ (compare field .eq v).holds d = .ok true

/-- Equality is included unless it is equality as a whole and stands alone. -/
theorem includesEquality_iff_of_accepts {strict inclusive : Comparison}
    {accept accept' : Ordering → Bool} (h : ∀ o, accept' o = (accept o || o == .eq))
    (hs : (compare field strict v).holds d = .ok (Value.matchesOrder accept (d.lookup field) v))
    (hi : (compare field inclusive v).holds d =
      .ok (Value.matchesOrder accept' (d.lookup field) v)) :
    IncludesEquality strict inclusive field v d ↔
      ¬ (Value.equalsWhole (d.lookup field) v = true ∧
        (compare field inclusive v).holds d = .ok false) := by
  have he : (compare field .eq v).holds d = .ok (Value.matchesEq (d.lookup field) v) := rfl
  rw [IncludesEquality, hs, hi, he, Value.matchesEq_eq_or, Value.matchesOrder_eq_any,
    Value.matchesOrder_eq_any, Value.any_ordered_inclusive h]
  cases (Value.offered (d.lookup field)).any (Value.ordered accept v) <;>
    cases (Value.offered (d.lookup field)).any (·.alike v) <;>
    cases Value.equalsWhole (d.lookup field) v <;> simp

/-- **Inclusive comparisons include equality** unless the field equals the operand as a whole and is
turned down. The operand is then null or an array. -/
theorem includesEquality_iff (field : String) (v : Value) (d : Document) :
    (IncludesEquality .gt .gte field v d ↔
      ¬ (Value.equalsWhole (d.lookup field) v = true ∧
        (compare field .gte v).holds d = .ok false)) ∧
    (IncludesEquality .lt .lte field v d ↔
      ¬ (Value.equalsWhole (d.lookup field) v = true ∧
        (compare field .lte v).holds d = .ok false)) ∧
    (v = .null ∨ (∃ items, v = .array items) ∨
      IncludesEquality .gt .gte field v d ∧ IncludesEquality .lt .lte field v d) := by
  have hgt : IncludesEquality .gt .gte field v d ↔ _ :=
    includesEquality_iff_of_accepts (fun o => by cases o <;> rfl) rfl rfl
  have hlt : IncludesEquality .lt .lte field v d ↔ _ :=
    includesEquality_iff_of_accepts (fun o => by cases o <;> rfl) rfl rfl
  refine ⟨hgt, hlt, ?_⟩
  rcases Value.equalsWhole_cases (d.lookup field) v with hn | ha | hw
  · exact .inl hn
  · exact .inr (.inl ha)
  · exact .inr (.inr ⟨hgt.2 (by simp [hw]), hlt.2 (by simp [hw])⟩)

/-- A missing field equals null and is not at least null, and an array equals itself and is not at
least itself. -/
theorem inclusive_without_equality :
    ¬ (∀ (field : String) (v : Value) (d : Document), IncludesEquality .gt .gte field v d ∧
      IncludesEquality .lt .lte field v d) ∧
    (let tags := Value.array [.int32 1, .int32 2]
     let d := Document.single "tags" tags
     (compare "tags" .eq tags).holds d = .ok true ∧
      (compare "tags" .gte tags).holds d = .ok false ∧
      (compare "tags" .lte tags).holds d = .ok false) ∧
    ((compare "tags" .eq .null).holds [] = .ok true ∧
      (compare "tags" .gte .null).holds [] = .ok false ∧
      (compare "tags" .lte .null).holds [] = .ok false) := by
  refine ⟨fun h => ?_, ⟨rfl, rfl, rfl⟩, rfl, rfl, rfl⟩
  have heq : (compare "tags" .eq .null).holds [] = .ok true := rfl
  have hgte : (compare "tags" .gte .null).holds [] = .ok false := rfl
  have h := (h "tags" .null []).1.2 (.inr heq)
  rw [hgte] at h
  cases h

end Filter

end DocumentDb
