import DocumentDb.Proofs.Filter.Boolean
import DocumentDb.Proofs.Pipeline.Sort

/-!
# Filters and sorting agree on the order of values

Equality, the order comparisons and sorting are decided by three functions, which treat arrays and
missing fields each in their own way. Of a field that is neither they all ask the same question.

**Commensurate values** (`Value.Commensurate`) are measured, belong to the bracket of an operand,
and are no arrays. What such a field answers to an operand is how it stands to it in the order of
values (`holds_of_commensurate`).

**Theorem (`comparisons_split_sorted`).** Documents with commensurate fields are below an operand,
equal to it or above it, and only one of these. Sorted by the field they stand in this order. What
is above an operand is above all lesser ones.
-/

namespace DocumentDb

variable {x y v w : Value}

/-! ## Splitting a list by a bound -/

/-- If the answers of the items never fall, the list is made of three parts. -/
theorem eq_filter_append_of_pairwise {α : Type} {answer : α → Ordering} {l : List α}
    (h : l.Pairwise fun a b => (answer b = .lt → answer a = .lt) ∧
      ((answer b).isLE = true → (answer a).isLE = true)) :
    l = l.filter (answer · == .lt) ++ (l.filter (answer · == .eq) ++
      l.filter (answer · == .gt)) := by
  induction l with
  | nil => rfl
  | cons a l ih =>
    rw [List.pairwise_cons] at h
    have ih := ih h.2
    cases ha : answer a with
    | lt => simpa [ha] using ih
    | eq =>
      have hlt : l.filter (answer · == .lt) = [] := by
        rw [List.filter_eq_nil_iff]
        intro b hb hlt
        have hab := (h.1 b hb).1 (beq_iff_eq.1 hlt)
        rw [ha] at hab
        cases hab
      rw [hlt, List.nil_append] at ih
      simpa [ha, hlt] using ih
    | gt =>
      have hgt (b : α) (hb : b ∈ l) : answer b = .gt := by
        have hab := (h.1 b hb).2
        rw [ha] at hab
        cases hb' : answer b with
        | gt => rfl
        | _ => exact absurd (hab (by rw [hb']; rfl)) (by decide)
      have hlt : l.filter (answer · == .lt) = [] :=
        List.filter_eq_nil_iff.2 fun b hb => by simp [hgt b hb]
      have heq : l.filter (answer · == .eq) = [] :=
        List.filter_eq_nil_iff.2 fun b hb => by simp [hgt b hb]
      rw [hlt, heq, List.nil_append, List.nil_append] at ih
      simpa [ha, hlt, heq] using ih

/-! ## Commensurate fields -/

namespace Value

/-- A measured value of the operand's bracket that is no array. -/
structure Commensurate (x operand : Value) : Prop where
  measured : x.measured = true
  single : x.items? = none
  bracket : x.sameBracket operand = true

theorem matchesEq_of_single (h : x.items? = none) : matchesEq (some x) v = x.alike v := by
  cases x with
  | array items => cases h
  | _ => rfl

theorem matchesOrder_of_single {accept : Ordering → Bool} (h : x.items? = none) :
    matchesOrder accept (some x) v = (x.sameBracket v && accept (x.order v)) := by
  cases x with
  | array items => cases h
  | _ => rfl

/-- What is not above a value is below what that value is below. -/
theorem order_lt_of_isLE (hx : x.measured = true) (hy : y.measured = true)
    (hv : v.measured = true) (hxy : (x.order y).isLE = true) (hyv : y.order v = .lt) :
    x.order v = .lt :=
  (composes_order hx hy hv).lt_of_isLE hxy hyv

end Value

/-- The comparison that holds of a value which stands so to the operand. -/
def Comparison.ofOrdering : Ordering → Comparison
  | .lt => .lt
  | .eq => .eq
  | .gt => .gt

theorem Comparison.mem_iff_ofOrdering {op : Comparison} :
    op ∈ [Comparison.lt, .eq, .gt] ↔ ∃ o, op = ofOrdering o := by
  constructor
  · intro h
    simp only [List.mem_cons, List.not_mem_nil, or_false] at h
    rcases h with rfl | rfl | rfl
    · exact ⟨.lt, rfl⟩
    · exact ⟨.eq, rfl⟩
    · exact ⟨.gt, rfl⟩
  · rintro ⟨o, rfl⟩
    cases o <;> simp [ofOrdering]

theorem Comparison.ofOrdering_beq (o o' : Ordering) :
    (ofOrdering o == ofOrdering o') = (o' == o) := by
  cases o <;> cases o' <;> rfl

namespace Filter

variable {field : String} {d : Document} {docs : List Document}

theorem holds_of_commensurate (hf : d.lookup field = some x) (hx : x.Commensurate v)
    (o : Ordering) :
    (compare field (.ofOrdering o) v).holds d = .ok (x.order v == o) := by
  rw [holds, hf]
  cases o with
  | lt =>
    show Except.ok (Value.matchesOrder _ _ _) = _
    rw [Value.matchesOrder_of_single hx.single, hx.bracket]
    cases x.order v <;> rfl
  | eq =>
    show Except.ok (Value.matchesEq _ _) = _
    rw [Value.matchesEq_of_single hx.single, Value.alike]
  | gt =>
    show Except.ok (Value.matchesOrder _ _ _) = _
    rw [Value.matchesOrder_of_single hx.single, hx.bracket]
    cases x.order v <;> rfl

/-- The field of a document is commensurate with an operand. -/
def CommensurateAt (field : String) (operand : Value) (d : Document) : Prop :=
  ∃ x, d.lookup field = some x ∧ x.Commensurate operand

theorem CommensurateAt.lookupOrNull (h : CommensurateAt field v d) :
    d.lookup field = some (d.lookupOrNull field) ∧ (d.lookupOrNull field).Commensurate v := by
  obtain ⟨x, hf, hx⟩ := h
  rw [Document.lookupOrNull, hf]
  exact ⟨rfl, hx⟩

/-- How the field of a document stands to an operand tells which comparison holds. -/
theorem CommensurateAt.holds (h : CommensurateAt field v d) (o : Ordering) :
    (compare field (.ofOrdering o) v).holds d =
      .ok ((d.lookupOrNull field).order v == o) :=
  holds_of_commensurate h.lookupOrNull.1 h.lookupOrNull.2 o

/-- Exactly one comparison holds. -/
theorem CommensurateAt.exists_comparison (h : CommensurateAt field v d) :
    ∃ op ∈ [Comparison.lt, .eq, .gt], ∀ op' ∈ [Comparison.lt, .eq, .gt],
      (compare field op' v).holds d = .ok (op' == op) := by
  refine ⟨.ofOrdering ((d.lookupOrNull field).order v),
    Comparison.mem_iff_ofOrdering.2 ⟨_, rfl⟩, fun op' hop' => ?_⟩
  obtain ⟨o, rfl⟩ := Comparison.mem_iff_ofOrdering.1 hop'
  rw [h.holds, Comparison.ofOrdering_beq]

theorem CommensurateAt.of_sameBracket (h : CommensurateAt field v d)
    (hvw : v.sameBracket w = true) : CommensurateAt field w d := by
  obtain ⟨x, hf, hm, hs, hb⟩ := h
  rw [Value.sameBracket, beq_iff_eq] at hvw hb
  exact ⟨x, hf, hm, hs, by rw [Value.sameBracket, hb, hvw]; exact beq_self_eq_true _⟩

/-- What is above an operand is above every lesser one. -/
theorem CommensurateAt.gt_of_isLE (h : CommensurateAt field v d) (hv : v.measured = true)
    (hw : w.measured = true) (hb : v.sameBracket w = true) (hvw : (v.order w).isLE = true)
    (hgt : (compare field .gt w).holds d = .ok true) :
    (compare field .gt v).holds d = .ok true := by
  have hx : (d.lookupOrNull field).measured = true := h.lookupOrNull.2.measured
  have hxw := hgt.symm.trans ((h.of_sameBracket hb).holds .gt)
  rw [Except.ok.injEq, eq_comm, beq_iff_eq] at hxw
  have hwx : w.order (d.lookupOrNull field) = .lt := by
    rw [← Value.order_swap, hxw]
    rfl
  have hxv : (d.lookupOrNull field).order v = .gt := by
    rw [← Value.order_swap, Value.order_lt_of_isLE hv hw hx hvw hwx]
    rfl
  have hd := h.holds .gt
  rwa [hxv] at hd

/-! ## The sorted documents -/

theorem select_of_commensurateAt (h : ∀ d ∈ docs, CommensurateAt field v d) (o : Ordering) :
    (compare field (.ofOrdering o) v).select docs =
      .ok (docs.filter fun d => (d.lookupOrNull field).order v == o) :=
  select_eq_ok_filter fun d hd => (h d hd).holds o

theorem stableSort_of_commensurateAt (h : ∀ d ∈ docs, CommensurateAt field v d) :
    StableSort [.ascending field] docs (sortByKeys [.ascending field] docs) := by
  refine stableSort_sortByKeys fun d hd => ?_
  rw [measuredAt, List.all_cons, List.all_nil, Bool.and_true]
  exact (h d hd).lookupOrNull.2.measured

/-- Along the sorted documents, the field rises past the operand. -/
theorem sorted_eq_append (hv : v.measured = true)
    (h : ∀ d ∈ sortByKeys [.ascending field] docs, CommensurateAt field v d)
    (hs : StableSort [.ascending field] docs (sortByKeys [.ascending field] docs)) :
    let part (o : Ordering) := (sortByKeys [.ascending field] docs).filter fun d =>
      (d.lookupOrNull field).order v == o
    sortByKeys [.ascending field] docs = part .lt ++ (part .eq ++ part .gt) := by
  apply eq_filter_append_of_pairwise
  refine hs.ordered.imp_of_mem fun {d e} hd he hde => ?_
  have hdm : (d.lookupOrNull field).measured = true := (h d hd).lookupOrNull.2.measured
  have hem : (e.lookupOrNull field).measured = true := (h e he).lookupOrNull.2.measured
  have hle : ((d.lookupOrNull field).order (e.lookupOrNull field)).isLE = true := by
    rw [orderBy, orderBy] at hde
    simpa [SortKey.order, SortKey.field] using hde
  exact ⟨Value.order_lt_of_isLE hdm hem hv hle, (Value.composes_order hdm hem hv).isLE hle⟩

/-- **Filters and sorting agree.** Of the comparisons of commensurate fields with an operand
exactly one holds. The documents sorted by the field are those below the operand, those equal to it
and those above it, in this order. What is above a greater operand is above it, too. -/
theorem comparisons_split_sorted (hv : v.measured = true)
    (h : ∀ d ∈ docs, CommensurateAt field v d) :
    (∀ d ∈ docs, ∃ op ∈ [Comparison.lt, .eq, .gt], ∀ op' ∈ [Comparison.lt, .eq, .gt],
      (compare field op' v).holds d = .ok (op' == op)) ∧
    (∃ below level above,
      (compare field .lt v).select (sortByKeys [.ascending field] docs) = .ok below ∧
      (compare field .eq v).select (sortByKeys [.ascending field] docs) = .ok level ∧
      (compare field .gt v).select (sortByKeys [.ascending field] docs) = .ok above ∧
      sortByKeys [.ascending field] docs = below ++ (level ++ above)) ∧
    ∀ w : Value, w.measured = true → v.sameBracket w = true → (v.order w).isLE = true →
      ∀ d ∈ docs, (compare field .gt w).holds d = .ok true →
        (compare field .gt v).holds d = .ok true := by
  have hs := stableSort_of_commensurateAt h
  have hsorted : ∀ d ∈ sortByKeys [.ascending field] docs, CommensurateAt field v d :=
    fun d hd => h d (hs.perm.mem_iff.1 hd)
  refine ⟨fun d hd => (h d hd).exists_comparison, ?_, fun w hw hb hvw d hd =>
    (h d hd).gt_of_isLE hv hw hb hvw⟩
  exact ⟨_, _, _, select_of_commensurateAt hsorted .lt, select_of_commensurateAt hsorted .eq,
    select_of_commensurateAt hsorted .gt, sorted_eq_append hv hsorted hs⟩

/-- Integers of both widths about a double. -/
theorem comparisons_split_sorted_of_ages :
    let docs : List Document :=
      [[("age", .int64 40)], [("age", .int32 30)], [("age", .int32 20)], [("age", .int64 30)]]
    let v := Value.double (Binary64.ofInt 30)
    (v.measured = true ∧ ∀ d ∈ docs, CommensurateAt "age" v d) ∧
      (∃ op, ∀ op' ∈ [Comparison.lt, .eq, .gt],
        (compare "age" op' v).holds [("age", .int64 40)] = .ok (op' == op)) ∧
      ∃ below level above, (compare "age" .eq v).select
          (sortByKeys [.ascending "age"] docs) = .ok level ∧
        sortByKeys [.ascending "age"] docs = below ++ (level ++ above) := by
  intro docs v
  have hv : v.measured = true := rfl
  have h : ∀ d ∈ docs, CommensurateAt "age" v d := by
    intro d hd
    simp only [docs, List.mem_cons, List.not_mem_nil, or_false] at hd
    rcases hd with rfl | rfl | rfl | rfl <;> exact ⟨_, rfl, rfl, rfl, rfl⟩
  obtain ⟨hone, ⟨below, level, above, -, heq, -, hsorted⟩, -⟩ := comparisons_split_sorted hv h
  obtain ⟨op, -, hop⟩ := hone [("age", .int64 40)] List.mem_cons_self
  exact ⟨⟨hv, h⟩, ⟨op, hop⟩, below, level, above, heq, hsorted⟩

end Filter

end DocumentDb
