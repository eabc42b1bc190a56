import DocumentDb.Filter.Match
import DocumentDb.Proofs.Filter.Render
import DocumentDb.Proofs.Value.Order
import DocumentDb.Proofs.Value.Path

/-!
# What a query document means

A query document may be that of several filters. Of plain ones it is that of one only. But an
equality whose operand reads as an operator shares its query document with a filter that applies
the operator, and some document is meant by one of the two only
(`exists_differ_of_readsAsOperator`).

**Theorem (`render_determines_meaning`).** Plain filters with the same query document mean the same
documents. All filters with a query document do if and only if it does not read as an operator.

**Telling documents.** What tells the two filters apart is most often the operand of the equality
itself, put at the field. It equals the operand, but is nested too deeply to equal anything in it.
-/

namespace DocumentDb

namespace Filter

/-- Some document is meant by one of two filters only. -/
def Differ (f g : Filter) : Prop :=
  ∃ d, f.holds d ≠ g.holds d

variable {field key : String} {op : Comparison} {v w : Value}

theorem ok_ne_ok {a b : Bool} (h : a ≠ b) : (.ok a : Except Error Bool) ≠ .ok b :=
  fun he => h (Except.ok.inj he)

/-- Comparisons differ if some value of the field tells them apart. -/
theorem differ_of_value (x : Value)
    (h : comparisonHolds field op (some x) w ≠ comparisonHolds field .eq (some x) v) :
    Differ (compare field op w) (compare field .eq v) := by
  refine ⟨Document.setPath [] field x, ?_⟩
  rw [holds, holds, Document.lookup_setPath]
  exact h

/-! ## Operators under a field -/

/-- The operand of an equality that nests a key. -/
def nested (key : String) (w : Value) : Value :=
  .document [(key, w)]

/-- The same with one more entry. -/
def extended (key : String) (w : Value) : Value :=
  .document [(key, w), ("", .null)]

theorem depth_lt_nested (key : String) (w : Value) : w.depth < (nested key w).depth := by
  simp [nested, Value.depth, Value.entriesDepth]

theorem depth_lt_extended (key : String) (w : Value) : w.depth < (extended key w).depth := by
  simp [extended, Value.depth, Value.entriesDepth]

theorem order_extended (key : String) (w : Value) :
    (extended key w).order (nested key w) = .gt := by
  simp [extended, nested, Value.order, orderEntries]

theorem matchesEq_nested : Value.matchesEq (some (nested key w)) (nested key w) = true := by
  simp [nested, Value.matchesEq]

theorem matchesEq_extended : Value.matchesEq (some (extended key w)) (nested key w) = false := by
  show (extended key w).alike (nested key w) = false
  rw [Value.alike, order_extended]
  rfl

/-- What is above a document with one entry is so by that entry, not by its length. -/
theorem order_extended_of_nested {u : Value} (h : (nested key w).order u = .gt) :
    (extended key w).order u = .gt := by
  cases u with
  | document fs =>
    cases fs with
    | nil => rfl
    | cons f fs =>
      simp only [nested, extended, Value.order, orderEntries] at h ⊢
      cases hk : Ord.compare key f.1 <;> cases hw : w.order f.2 <;> simp_all
      cases fs <;> simp [orderEntries] at h
  | _ => exact h

theorem matchesEq_nested_of_depth_le {u : Value} (h : u.depth ≤ w.depth) :
    Value.matchesEq (some (nested key w)) u = false :=
  Value.alike_eq_false_of_depth_lt (Nat.lt_of_le_of_lt h (depth_lt_nested key w))

theorem matchesEq_extended_of_depth_le {u : Value} (h : u.depth ≤ w.depth) :
    Value.matchesEq (some (extended key w)) u = false :=
  Value.alike_eq_false_of_depth_lt (Nat.lt_of_le_of_lt h (depth_lt_extended key w))

/-- An operand stands in an array, so an inclusive comparison of the array with it holds. -/
theorem matchesOrder_array {accept : Ordering → Bool} (h : accept .eq = true) (w : Value) :
    Value.matchesOrder accept (some (.array [w])) w = true := by
  simp [Value.matchesOrder, Value.ordered, Value.sameBracket, h]

theorem matchesEq_array_nested :
    Value.matchesEq (some (.array [w])) (nested key w) = false := by
  have h : w.alike (nested key w) = false := by
    rw [Value.alike_comm]
    exact Value.alike_eq_false_of_depth_lt (depth_lt_nested key w)
  simp [Value.matchesEq, nested, Value.items?] at h ⊢
  exact h

theorem matchesEq_any_of_depth_le {v : Value} {items : List Value}
    (h : ∀ u : Value, u.depth ≤ (Value.array items).depth → Value.matchesEq (some v) u = false) :
    items.any (Value.matchesEq (some v)) = false := by
  refine List.any_eq_false.2 fun u hu => ?_
  rw [h u (Nat.le_succ_of_le (Value.depth_le_itemsDepth hu))]
  simp

/-- Above an operand stands the document that nests it, or an extension of that document does. -/
theorem exists_gt_differ (key : String) (w : Value) :
    ∃ x, Value.matchesOrder Ordering.isGT (some x) w ≠
      Value.matchesEq (some x) (nested key w) := by
  by_cases h : Value.matchesOrder Ordering.isGT (some (nested key w)) w = true
  · refine ⟨extended key w, ?_⟩
    simp only [Value.matchesOrder, nested, Value.ordered, Bool.and_eq_true] at h
    have ho : (extended key w).order w = .gt :=
      order_extended_of_nested (Ordering.isGT_iff_eq_gt.1 h.2)
    have hb : (extended key w).sameBracket w = true := h.1
    rw [matchesEq_extended]
    simp only [extended] at ho hb
    simp [Value.matchesOrder, extended, Value.ordered, ho, hb]
  · exact ⟨nested key w, by rw [matchesEq_nested]; exact h⟩

/-- Below an operand stands the empty document, unless the one that nests the operand does not. -/
theorem exists_lt_differ (key : String) (w : Value) :
    ∃ x, Value.matchesOrder Ordering.isLT (some x) w ≠
      Value.matchesEq (some x) (nested key w) := by
  by_cases h : Value.matchesOrder Ordering.isLT (some (nested key w)) w = true
  · refine ⟨.document [], ?_⟩
    simp only [Value.matchesOrder, nested, Value.ordered, Bool.and_eq_true] at h
    obtain ⟨es, rfl⟩ := Value.eq_document_of_bracket (beq_iff_eq.1 h.1).symm
    cases es with
    | nil => simp [Value.order, orderEntries] at h
    | cons e es => simp [Value.matchesOrder, Value.ordered, Value.order, orderEntries,
        Value.matchesEq, Value.alike, nested, Value.sameBracket, Value.bracket]
  · exact ⟨nested key w, by rw [matchesEq_nested]; exact h⟩

/-- An operator is told from the equality with the document that names it. -/
theorem differ_of_accepts (field : String) (ho : op ≠ .eq) (hw : op.accepts w = true) :
    Differ (compare field op w) (compare field .eq (nested op.operator w)) := by
  cases op with
  | eq => exact (ho rfl).elim
  | ne =>
    refine differ_of_value (extended "$ne" w) (ok_ne_ok ?_)
    rw [matchesEq_extended_of_depth_le (Nat.le_refl _)]
    exact fun h => nomatch h.trans matchesEq_extended
  | gt =>
    obtain ⟨x, hx⟩ := exists_gt_differ "$gt" w
    exact differ_of_value x (ok_ne_ok hx)
  | lt =>
    obtain ⟨x, hx⟩ := exists_lt_differ "$lt" w
    exact differ_of_value x (ok_ne_ok hx)
  | gte =>
    refine differ_of_value (.array [w]) (ok_ne_ok ?_)
    rw [matchesOrder_array rfl]
    exact fun h => nomatch h.trans matchesEq_array_nested
  | lte =>
    refine differ_of_value (.array [w]) (ok_ne_ok ?_)
    rw [matchesOrder_array rfl]
    exact fun h => nomatch h.trans matchesEq_array_nested
  | isIn =>
    cases w with
    | array items =>
      refine differ_of_value (nested "$in" (.array items)) (ok_ne_ok ?_)
      rw [matchesEq_any_of_depth_le fun u => matchesEq_nested_of_depth_le]
      exact fun h => nomatch h.trans matchesEq_nested
    | _ => cases hw
  | notIn =>
    cases w with
    | array items =>
      refine differ_of_value (extended "$nin" (.array items)) ?_
      show (Except.ok (!items.any (Value.matchesEq _)) : Except Error Bool) ≠ .ok _
      rw [matchesEq_any_of_depth_le fun u => matchesEq_extended_of_depth_le]
      exact ok_ne_ok fun h => nomatch h.trans matchesEq_extended
    | _ => cases hw
  | size =>
    obtain ⟨n, hn⟩ := Option.isSome_iff_exists.1 hw
    refine differ_of_value (nested "$size" w) ?_
    simp only [comparisonHolds, hn]
    exact ok_ne_ok fun h => nomatch h.trans matchesEq_nested

/-- A test for presence is told from the equality with the document that names it. -/
theorem differ_present (field : String) (expected : Bool) :
    Differ (present field expected) (compare field .eq (nested "$exists" (.bool expected))) := by
  cases expected with
  | true =>
    refine ⟨Document.setPath [] field .null, ?_⟩
    rw [holds, holds, Document.lookup_setPath]
    exact ok_ne_ok (by decide)
  | false =>
    refine ⟨Document.setPath [] field (nested "$exists" (.bool false)), ?_⟩
    rw [holds, holds, Document.lookup_setPath, comparisonHolds, matchesEq_nested]
    exact fun h => nomatch h

/-! ## Combinations -/

theorem matchesEq_self (v : Value) : Value.matchesEq (some v) v = true := by
  cases v <;> simp [Value.matchesEq, Value.items?]

/-- What is nested more deeply than a field, neither the field nor an item of it equals. -/
theorem matchesEq_eq_false_of_depth_lt {x : Value} (h : x.depth < v.depth) :
    Value.matchesEq (some x) v = false := by
  have hx {u : Value} (hu : u.depth ≤ x.depth) : u.alike v = false := by
    rw [Value.alike_comm]
    exact Value.alike_eq_false_of_depth_lt (Nat.lt_of_le_of_lt hu h)
  cases x with
  | array items =>
    have hi : items.any (·.alike v) = false := List.any_eq_false.2 fun u hu => by
      rw [hx (Nat.le_succ_of_le (Value.depth_le_itemsDepth hu))]
      simp
    rw [Value.matchesEq, hx (Nat.le_refl _), hi, Bool.and_false, Bool.or_false]
  | _ => exact hx (Nat.le_refl _)

theorem lookup_of_segments {path s : String} (h : Path.segments path = [s]) (d : Document) :
    d.lookup path = d.get? s := by
  rw [Document.lookup, h, Document.resolve]
  cases d.get? s <;> rfl

/-- A value put elsewhere, or one nested less deeply than an array, does not equal the array. -/
theorem matchesEq_setPath {x : Value} {items : List Value} (hf : Path.segments field = [field])
    (hx : x.depth < (Value.array items).depth) (path : String) :
    Value.matchesEq ((Document.setPath [] path x).lookup field) (.array items) = false := by
  obtain ⟨k, u, hk, hu⟩ := Document.setPath_nil path x
  rw [hk, lookup_of_segments hf, Document.single, Assoc.get?, Assoc.get?_nil]
  split
  · rcases hu with rfl | ⟨es, rfl⟩
    · exact matchesEq_eq_false_of_depth_lt hx
    · rfl
  · rfl

/-- The equalities of some fields with some operands. -/
def equalities (es : Document) : List Filter :=
  es.map fun e => compare e.1 .eq e.2

theorem exists_pairs {items : List Value} (h : items.all isPair = true) :
    ∃ es : Document, items = es.map fun e => .document [e] := by
  induction items with
  | nil => exact ⟨[], rfl⟩
  | cons v items ih =>
    rw [List.all_cons, Bool.and_eq_true] at h
    obtain ⟨es, rfl⟩ := ih h.2
    have hv := h.1
    unfold isPair at hv
    split at hv
    · next e => exact ⟨e :: es, rfl⟩
    · cases hv

theorem renderFilters_equalities (es : Document) :
    renderFilters (equalities es) = .ok (es.map fun e => .document [e]) := by
  induction es with
  | nil => rfl
  | cons e es ih => exact renderFilters_cons_eq_ok_iff.2 ⟨_, _, rfl, ih, rfl⟩

theorem allHold_equalities (d : Document) (es : Document) :
    allHold d (equalities es) = .ok (es.all fun e => Value.matchesEq (d.lookup e.1) e.2) := by
  induction es with
  | nil => rfl
  | cons e es ih =>
    show (do if ← (compare e.1 .eq e.2).holds d then allHold d (equalities es) else return false)
      = _
    rw [ih, List.all_cons, holds, comparisonHolds]
    cases Value.matchesEq (d.lookup e.1) e.2 <;> rfl

theorem anyHolds_equalities (d : Document) (es : Document) :
    anyHolds d (equalities es) = .ok (es.any fun e => Value.matchesEq (d.lookup e.1) e.2) := by
  induction es with
  | nil => rfl
  | cons e es ih =>
    show (do if ← (compare e.1 .eq e.2).holds d then return true else anyHolds d (equalities es))
      = _
    rw [ih, List.any_cons, holds, comparisonHolds]
    cases Value.matchesEq (d.lookup e.1) e.2 <;> rfl

theorem holds_all_equalities {es : Document} (he : es ≠ []) (d : Document) :
    (all (equalities es)).holds d =
      .ok (es.all fun e => Value.matchesEq (d.lookup e.1) e.2) := by
  rw [holds, requireOperands, if_neg (by simp [equalities, he]), ← allHold_equalities]
  rfl

theorem holds_any_equalities {es : Document} (he : es ≠ []) (d : Document) :
    (any (equalities es)).holds d =
      .ok (es.any fun e => Value.matchesEq (d.lookup e.1) e.2) := by
  rw [holds, requireOperands, if_neg (by simp [equalities, he]), ← anyHolds_equalities]
  rfl

/-- The array of the pairs of a document is nested more deeply than what the pairs hold. -/
theorem depth_lt_pairs {es : Document} {e : String × Value} (he : e ∈ es) :
    e.2.depth < (Value.array (es.map fun e => .document [e])).depth := by
  have h := Value.depth_le_itemsDepth (List.mem_map_of_mem (f := fun e => Value.document [e]) he)
  simp only [Value.depth, Value.entriesDepth] at h ⊢
  omega

/-- A scalar that does not equal a value. -/
theorem exists_scalar_unlike (w : Value) :
    ∃ u : Value, u.alike w = false ∧ (∀ s ss, u.resolve (s :: ss) = none) ∧
      Value.matchesEq (some u) w = u.alike w := by
  by_cases h : w = .minKey
  · subst h
    exact ⟨.maxKey, by decide, fun _ _ => rfl, rfl⟩
  · refine ⟨.minKey, ?_, fun _ _ => rfl, rfl⟩
    cases w <;> first | contradiction | rfl

/-- A value stands in some array under a field although a path through that field does not lead to
what equals a given operand: the place in the array is one that the path does not name. -/
theorem exists_array_unlike (field path : String) (hn : w.isNull = false)
    (hv : w.depth < v.depth) :
    ∃ vs, v ∈ vs ∧
      Value.matchesEq ((Document.single field (.array vs)).lookup path) w = false := by
  obtain ⟨s, ss, hs⟩ := Path.exists_segments_eq_cons path
  simp only [Document.lookup, hs, Document.resolve, Document.single, Assoc.get?]
  by_cases hf : field = s
  · simp only [if_pos hf, Option.bind_some]
    cases ss with
    | nil =>
      refine ⟨[v], List.mem_singleton_self v, ?_⟩
      have hd : w.depth < (Value.array [v]).depth := by
        simp only [Value.depth, Value.itemsDepth]
        omega
      simp [Value.resolve, Value.matchesEq, Value.alike_eq_false_of_depth_lt hv,
        Value.alike_eq_false_of_depth_lt hd]
    | cons t ss =>
      simp only [Value.resolve]
      cases Text.natOfText? t with
      | none => exact ⟨[v], List.mem_singleton_self v, hn⟩
      | some n =>
        cases n with
        | zero =>
          obtain ⟨u, hu, hr, hm⟩ := exists_scalar_unlike w
          refine ⟨[u, v], by simp, ?_⟩
          cases ss with
          | nil => exact hm.trans hu
          | cons r ss =>
            show Value.matchesEq (u.resolve (r :: ss)) w = false
            rw [hr]
            exact hn
        | succ n => exact ⟨[v], List.mem_singleton_self v, hn⟩
  · simp only [if_neg hf]
    exact ⟨[v], List.mem_singleton_self v, hn⟩

/-- A conjunction of equalities is told from the equality with the array that names them. -/
theorem differ_all {es : Document} (he : es ≠ []) :
    Differ (all (equalities es))
      (compare "$and" .eq (.array (es.map fun e => .document [e]))) := by
  by_cases hn : es.all (·.2.isNull) = true
  · refine ⟨[], ?_⟩
    rw [holds_all_equalities he, holds, comparisonHolds]
    simp only [Document.lookup_nil]
    exact ok_ne_ok fun h => nomatch hn.symm.trans h
  · obtain ⟨e, hes, hen⟩ : ∃ e ∈ es, e.2.isNull = false := by simpa using hn
    obtain ⟨vs, hv, hvs⟩ := exists_array_unlike "$and" e.1 hen (depth_lt_pairs hes)
    refine ⟨Document.single "$and" (.array vs), ?_⟩
    have hf : Path.segments "$and" = ["$and"] := by decide
    have hall : es.all (fun e =>
        Value.matchesEq ((Document.single "$and" (.array vs)).lookup e.1) e.2) = false :=
      List.all_eq_false.2 ⟨e, hes, by simp [hvs]⟩
    have hany : vs.any (·.alike (.array (es.map fun e => .document [e]))) = true :=
      List.any_eq_true.2 ⟨_, hv, Value.alike_self _⟩
    rw [holds_all_equalities he, hall, holds, comparisonHolds, lookup_of_segments hf,
      Document.single, Assoc.get?, if_pos rfl, Value.matchesEq, hany, Bool.or_true]
    exact ok_ne_ok (by decide)

/-- A disjunction of equalities is told from the equality with the array that names them. -/
theorem differ_any {es : Document} (he : es ≠ []) :
    Differ (any (equalities es))
      (compare "$or" .eq (.array (es.map fun e => .document [e]))) := by
  obtain ⟨e, es', rfl⟩ := List.exists_cons_of_ne_nil he
  refine ⟨Document.setPath [] e.1 e.2, ?_⟩
  rw [holds_any_equalities he, holds, comparisonHolds,
    matchesEq_setPath (by decide) (depth_lt_pairs List.mem_cons_self), List.any_cons,
    Document.lookup_setPath, matchesEq_self]
  exact ok_ne_ok (by simp)

/-- A negated equality is told from the equality with the array that names it. -/
theorem differ_not (e : String × Value) :
    Differ (not (compare e.1 .eq e.2)) (compare "$nor" .eq (.array [.document [e]])) := by
  have hnot (d : Document) (b : Bool) (h : Value.matchesEq (d.lookup e.1) e.2 = b) :
      (not (compare e.1 .eq e.2)).holds d = .ok !b := by
    rw [holds, holds, comparisonHolds, h]
    rfl
  cases hn : e.2.isNull with
  | false =>
    refine ⟨[], ?_⟩
    rw [hnot [] false (by rw [Document.lookup_nil]; exact hn), holds, Document.lookup_nil]
    exact ok_ne_ok fun h => nomatch h
  | true =>
    -- The field is there, with a value other than null.
    refine ⟨Document.setPath [] e.1 .minKey, ?_⟩
    have hd : Value.minKey.depth < (Value.array [.document [e]]).depth := by
      simp [Value.depth]
    rw [hnot _ false, holds, comparisonHolds, matchesEq_setPath (by decide) hd]
    · exact ok_ne_ok (by decide)
    · rw [Document.lookup_setPath]
      cases hw : e.2 with
      | null => rfl
      | _ =>
        rw [hw] at hn
        cases hn

/-! ## The meaning of query documents -/

theorem cases_of_nestsOperator (h : nestsOperator key w = true) :
    (∃ op : Comparison, op ≠ .eq ∧ op.accepts w = true ∧ key = op.operator) ∨
      ∃ b, key = "$exists" ∧ w = .bool b := by
  cases hk : Comparison.ofOperator? key with
  | some op =>
    rw [Comparison.ofOperator?_eq_some_iff] at hk
    subst hk
    have ho : op ≠ .eq := fun ho => by
      subst ho
      cases h
    exact .inl ⟨op, ho, (nestsOperator_operator ho).symm.trans h, rfl⟩
  | none =>
    cases w with
    | bool b => exact .inr ⟨b, by simpa [nestsOperator, hk] using h, rfl⟩
    | _ => simp [nestsOperator, hk] at h

/-- The query document of an equality that reads as an operator is also that of a filter which some
document tells from the equality. -/
theorem exists_differ_of_readsAsOperator (h : readsAsOperator field v = true) :
    ∃ g : Filter, g.render = .ok (.single field v) ∧ Differ g (compare field .eq v) := by
  cases v with
  | document es =>
    match es, h with
    | [(key, w)], h =>
      rcases cases_of_nestsOperator h with ⟨op, ho, hw, rfl⟩ | ⟨b, rfl, rfl⟩
      · exact ⟨_, (render_compare_eq_ok_iff ho).2 ⟨hw, rfl⟩, differ_of_accepts field ho hw⟩
      · exact ⟨present field b, rfl, differ_present field b⟩
  | array items =>
    simp only [readsAsOperator, combinesItems, Bool.and_eq_true, Bool.or_eq_true, beq_iff_eq] at h
    obtain ⟨hp, hf⟩ := h
    obtain ⟨es, rfl⟩ := exists_pairs hp
    rcases hf with ⟨rfl | rfl, hne⟩ | ⟨rfl, hl⟩
    · have he : es ≠ [] := by simpa using hne
      exact ⟨all (equalities es), render_all_eq_ok_iff.2 ⟨by simpa [equalities] using he, _,
        renderFilters_equalities es, rfl⟩, differ_all he⟩
    · have he : es ≠ [] := by simpa using hne
      exact ⟨any (equalities es), render_any_eq_ok_iff.2 ⟨by simpa [equalities] using he, _,
        renderFilters_equalities es, rfl⟩, differ_any he⟩
    · rw [List.length_map, List.length_eq_one_iff] at hl
      obtain ⟨e, rfl⟩ := hl
      exact ⟨not (compare e.1 .eq e.2), rfl, differ_not e⟩
  | _ => cases h

/-- **When a query document has one meaning.** Plain filters with the same query document mean the
same documents. All filters with it, plain or not, mean the same documents exactly if it is not the
query document of an equality that reads as an operator. -/
theorem render_determines_meaning (q : Document) :
    (∀ f g : Filter, f.plain = true → g.plain = true → f.render = .ok q → g.render = .ok q →
      ∀ d, f.holds d = g.holds d) ∧
    ((∀ f g : Filter, f.render = .ok q → g.render = .ok q → ∀ d, f.holds d = g.holds d) ↔
      ∀ k v, q = .single k v → readsAsOperator k v = false) := by
  refine ⟨fun f g hf hg h h' d => by rw [eq_of_render hf hg h h'], fun h k v hq => ?_,
    fun h f g hf hg d => ?_⟩
  · refine Bool.eq_false_iff.2 fun hr => ?_
    obtain ⟨g, hg, d, hd⟩ := exists_differ_of_readsAsOperator hr
    subst hq
    exact hd (h g (compare k .eq v) hg rfl d)
  · obtain ⟨k, v, rfl⟩ := render_eq_single hf
    have hp : (compare k .eq v).plain = true := by
      rw [plain, h k v rfl]
      rfl
    rw [eq_of_render_eq hp hf, eq_of_render_eq hp hg]

/-- An equality with a document that names an operator has the query document of the operator, but
only the equality means a document that holds such a document. -/
theorem render_of_named_operator :
    ¬ ∀ (f g : Filter) (q : Document), f.render = .ok q → g.render = .ok q →
      ∀ d, f.holds d = g.holds d := by
  intro h
  have hd := h (compare "f" .eq (.document [("$gt", .int32 5)])) (compare "f" .gt (.int32 5)) _
    rfl rfl [("f", .document [("$gt", .int32 5)])]
  exact absurd hd (ok_ne_ok (by decide))

end Filter

end DocumentDb
