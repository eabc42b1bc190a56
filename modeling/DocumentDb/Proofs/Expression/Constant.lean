import DocumentDb.Proofs.Expression.Operator
import DocumentDb.Proofs.Expression.Reading

/-!
# Which constants are read back as themselves

A constant that is not inert holds something that is read as a path or an operator. A path gives
nothing on the empty document. What an operator gives is nested no more deeply than its arguments,
or is an array (`Operator.cases_of_apply`), so it is never the document that names the operator.

**Theorem (`plain_literal_iff`).** A constant is read back as itself on all documents exactly if it
is plain.
-/

namespace DocumentDb

namespace Expression

variable {d into r : Document} {e : Expression} {v : Value}

/-! ## Operators -/

theorem depth_of_arguments {n : Nat} {args : List Value}
    (ih : ∀ u, e.evaluate d = .ok (some u) → u.depth ≤ n) (h : e.arguments d = .ok args) :
    Value.itemsDepth args ≤ n := by
  by_cases ha : ∃ es, e = array es
  · obtain ⟨es, rfl⟩ := ha
    refine Nat.le_of_succ_le (ih (.array args) ?_)
    rw [arguments] at h
    rw [evaluate, h]
    rfl
  · rw [arguments_of_ne_array fun es h => ha ⟨es, h⟩, evaluateOrNull] at h
    cases he : e.evaluate d with
    | error err =>
      rw [he] at h
      cases h
    | ok o =>
      rw [he] at h
      cases h
      cases o with
      | none => exact Nat.zero_le n
      | some u => simpa [Value.itemsDepth] using ih u he

/-- The value of an operator on an argument of limited depth is never the document that names the
operator with a value of that depth. -/
theorem evaluate_operator_depth {name : String} {u : Value}
    (hn : name ≠ "$literal") (ih : ∀ u, e.evaluate d = .ok (some u) → u.depth ≤ v.depth)
    (h : (operator name e).evaluate d = .ok (some u)) :
    u.depth ≤ v.depth + 1 ∧ u ≠ .document (Document.single name v) := by
  rw [evaluate_operator hn, bind_eq_ok_iff] at h
  obtain ⟨args, ha, hu⟩ := h
  have hargs := depth_of_arguments ih ha
  have hne {n : Nat} (hn : n ≤ v.depth) (hu : u.depth ≤ n) :
      u.depth ≤ v.depth + 1 ∧ u ≠ .document (Document.single name v) := by
    refine ⟨by omega, ?_⟩
    rintro rfl
    rw [Value.depth_single] at hu
    omega
  rcases Operator.cases_of_apply hu with h0 | ⟨w, hw, hle⟩ | ⟨es, hes, rfl⟩
  · exact hne (Nat.zero_le _) (Nat.le_of_eq h0)
  · exact hne hargs (Nat.le_trans hle (Value.depth_le_itemsDepth hw))
  · have he := Nat.le_trans (Value.depth_le_itemsDepth hes) hargs
    refine ⟨?_, by simp⟩
    simp only [Value.depth] at he ⊢
    have := Value.itemsDepth_entries es
    omega

/-! ## Arrays and documents -/

theorem evaluate_array_eq_ok_iff {es : List Expression} {o : Option Value} :
    (array es).evaluate d = .ok o ↔
      ∃ us, evaluateItems d es = .ok us ∧ o = some (.array us) := by
  rw [evaluate, bind_pure_eq_ok_iff]

theorem evaluate_object_eq_ok_iff {es : List (String × Expression)} {o : Option Value} :
    (object es).evaluate d = .ok o ↔
      ∃ r, evaluateEntries d [] es = .ok r ∧ o = some (.document r) := by
  rw [evaluate, bind_pure_eq_ok_iff]

theorem evaluateItems_cons_eq_ok_iff {es : List Expression} {us : List Value} :
    evaluateItems d (e :: es) = .ok us ↔
      ∃ w ws, e.evaluateOrNull d = .ok w ∧ evaluateItems d es = .ok ws ∧ us = w :: ws := by
  rw [evaluateItems, evaluateOrNull]
  cases e.evaluate d <;> cases evaluateItems d es <;>
    simp [bind, Except.bind, pure, Except.pure, eq_comm]

theorem evaluateEntries_cons_eq_ok_iff {k : String} {es : List (String × Expression)} :
    evaluateEntries d into ((k, e) :: es) = .ok r ↔
      ∃ o, e.evaluate d = .ok o ∧
        evaluateEntries d (o.elim into (into.insert k)) es = .ok r := by
  rw [evaluateEntries, bind_eq_ok_iff]
  refine exists_congr fun o => and_congr_right fun _ => ?_
  cases o <;> rfl

theorem nodup_keys_of_evaluateEntries {es : List (String × Expression)} (hk : into.keys.Nodup)
    (h : evaluateEntries d into es = .ok r) : r.keys.Nodup := by
  induction es generalizing into with
  | nil =>
    cases h
    exact hk
  | cons e es ih =>
    obtain ⟨o, -, h⟩ := evaluateEntries_cons_eq_ok_iff.1 h
    cases o with
    | none => exact ih hk h
    | some v => exact ih (Assoc.nodup_keys_insert hk _ v) h

theorem get?_of_evaluateEntries {es : Assoc Expression} {key : String} (hk : key ∉ es.keys)
    (h : evaluateEntries d into es = .ok r) : r.get? key = into.get? key := by
  induction es generalizing into with
  | nil =>
    cases h
    rfl
  | cons e es ih =>
    obtain ⟨o, -, h⟩ := evaluateEntries_cons_eq_ok_iff.1 h
    simp only [Assoc.keys, List.map_cons, List.mem_cons, not_or] at hk
    rw [ih hk.2 h]
    cases o with
    | none => rfl
    | some v => exact Assoc.get?_insert_of_ne _ _ hk.1

/-! ## What is read, on the empty document -/

theorem keys_readEntries (es : Document) : Assoc.keys (readEntries es) = es.keys := by
  induction es with
  | nil => rfl
  | cons e es ih => exact congrArg (e.1 :: ·) ih

theorem entriesDepth_of_evaluateEntries {es : Document}
    (he : ∀ e ∈ es, ∀ u, (read e.2).evaluate [] = .ok (some u) → u.depth ≤ e.2.depth)
    (h : evaluateEntries [] into (readEntries es) = .ok r) :
    Value.entriesDepth r ≤ max (Value.entriesDepth into) (Value.entriesDepth es) := by
  induction es generalizing into with
  | nil =>
    cases h
    exact Nat.le_max_left ..
  | cons e es ih =>
    obtain ⟨o, ho, h⟩ := evaluateEntries_cons_eq_ok_iff.1 h
    have hr := ih (fun f hf => he f (List.mem_cons_of_mem _ hf)) h
    rw [Value.entriesDepth]
    cases o with
    | none =>
      simp only [Option.elim_none] at hr
      omega
    | some u =>
      have hu := he e List.mem_cons_self u ho
      have := Value.entriesDepth_insert into e.1 u
      simp only [Option.elim_some] at hr
      omega

/-- A document is read as a document, or as what its only key names. -/
theorem read_document_cases (es : Document) :
    (read (.document es) = object (readEntries es) ∧ namesOperator es = false) ∨
      ∃ k w, es = Document.single k w ∧ startsWithDollar k = true ∧
        read (.document es) = if k = "$literal" then literal w else operator k (read w) := by
  cases hn : namesOperator es with
  | false => exact .inl ⟨by rw [read, readDocument_eq_object hn], rfl⟩
  | true =>
    rcases es with _ | ⟨⟨k, w⟩, _ | ⟨f, fs⟩⟩
    · cases hn
    · rw [namesOperator] at hn
      refine .inr ⟨k, w, rfl, hn, ?_⟩
      rw [read]
      simp only [readEntries, readDocument]
      simp [hn]
    · cases hn

theorem evaluate_readString (s : String) :
    (readString s).evaluate [] = .ok (if startsWithDollar s then none else some (.string s)) := by
  cases hs : startsWithDollar s with
  | true =>
    obtain ⟨name, rfl⟩ := exists_eq_dollar hs
    rw [readString_dollar, evaluate, Document.lookup_nil, if_pos rfl]
  | false =>
    rw [readString_of_not_startsWithDollar hs]
    rfl

theorem depth_evaluate_read_mutual :
    (∀ v u : Value, (read v).evaluate [] = .ok (some u) → u.depth ≤ v.depth) ∧
      (∀ es : Document, ∀ e ∈ es, ∀ u, (read e.2).evaluate [] = .ok (some u) →
          u.depth ≤ e.2.depth) ∧
        ∀ vs us, evaluateItems [] (readItems vs) = .ok us →
          Value.itemsDepth us ≤ Value.itemsDepth vs := by
  apply Value.inert.mutual_induct
  case case1 =>
    intro s u h
    rw [read, evaluate_readString] at h
    split at h <;> cases h
    exact Nat.le_refl _
  case case2 =>
    intro items ih u h
    rw [read] at h
    obtain ⟨us, hus, ⟨⟩⟩ := evaluate_array_eq_ok_iff.1 h
    exact Nat.succ_le_succ (ih us hus)
  case case3 =>
    intro es ih u h
    rcases read_document_cases es with ⟨hr, -⟩ | ⟨k, w, rfl, -, hr⟩
    · rw [hr] at h
      obtain ⟨r, hr, ⟨⟩⟩ := evaluate_object_eq_ok_iff.1 h
      have := entriesDepth_of_evaluateEntries ih hr
      simp only [Value.depth]
      simpa [Value.entriesDepth] using this
    · rw [hr] at h
      rw [Value.depth_single]
      split at h
      · cases h
        exact Nat.le_succ _
      · next hk => exact (evaluate_operator_depth hk (ih _ List.mem_cons_self) h).1
  case case4 =>
    intro v hs ha hd u h
    rw [read] at h
    · cases h
      exact Nat.le_refl _
    all_goals assumption
  case case5 =>
    intro us h
    cases h
    exact Nat.le_refl _
  case case6 =>
    intro v vs ihv ihvs us h
    obtain ⟨w, ws, hw, hws, rfl⟩ := evaluateItems_cons_eq_ok_iff.1 h
    obtain ⟨o, ho, rfl⟩ := bind_pure_eq_ok_iff.1 hw
    have := ihvs ws hws
    rw [Value.itemsDepth, Value.itemsDepth]
    cases o with
    | none => simp [Value.depth]; omega
    | some u =>
      have := ihv u ho
      simp only [Option.getD_some]
      omega
  case case7 =>
    intro e he
    cases he
  case case8 =>
    intro k v es ihv ihes e he
    rcases List.mem_cons.1 he with rfl | he
    · exact ihv
    · exact ihes e he

theorem inert_of_evaluate_read_mutual :
    (∀ v : Value, (read v).evaluateOrNull [] = .ok v → v.inert = true) ∧
      (∀ es into : Document, (into.keys ++ es.keys).Nodup →
        evaluateEntries [] into (readEntries es) = .ok (into ++ es) → inertEntries es = true) ∧
        ∀ vs, evaluateItems [] (readItems vs) = .ok vs → inertItems vs = true := by
  apply Value.inert.mutual_induct
  case case1 =>
    intro s h
    obtain ⟨o, ho, hs⟩ := bind_pure_eq_ok_iff.1 h
    rw [read, evaluate_readString] at ho
    rw [Value.inert]
    split at ho <;> cases ho
    · cases hs
    · next hd => rwa [Bool.not_eq_true', ← Bool.not_eq_true]
  case case2 =>
    intro items ih h
    obtain ⟨o, ho, hs⟩ := bind_pure_eq_ok_iff.1 h
    rw [read] at ho
    obtain ⟨us, hus, rfl⟩ := evaluate_array_eq_ok_iff.1 ho
    cases hs
    exact ih hus
  case case3 =>
    intro es ih h
    obtain ⟨o, ho, hs⟩ := bind_pure_eq_ok_iff.1 h
    rcases read_document_cases es with ⟨hr, hn⟩ | ⟨k, w, rfl, -, hr⟩
    · rw [hr] at ho
      obtain ⟨r, hr, rfl⟩ := evaluate_object_eq_ok_iff.1 ho
      cases hs
      have hk : (Assoc.keys es).Nodup := nodup_keys_of_evaluateEntries (by simp [Assoc.keys]) hr
      rw [Value.inert, plainKeys, hn, decide_eq_true hk, ih [] hk hr]
      rfl
    · rw [hr] at ho
      have hne : o ≠ some (.document (Document.single k w)) := by
        rintro rfl
        split at ho
        · have := congrArg Value.depth (Option.some.inj (Except.ok.inj ho))
          rw [Value.depth_single] at this
          omega
        · next hk =>
          exact (evaluate_operator_depth hk (depth_evaluate_read_mutual.1 w) ho).2 rfl
      cases o with
      | none => cases hs
      | some u => exact absurd (congrArg some hs.symm) hne
  case case4 =>
    intro v hs ha hd _
    rw [Value.inert] <;> assumption
  case case5 => exact fun _ => rfl
  case case6 =>
    intro v vs ihv ihvs h
    obtain ⟨w, ws, hw, hws, ⟨⟩⟩ := evaluateItems_cons_eq_ok_iff.1 h
    rw [inertItems, ihv hw, ihvs hws]
    rfl
  case case7 => exact fun _ _ _ => rfl
  case case8 =>
    intro k v es ihv ihes into hk h
    have hki : k ∉ into.keys := Assoc.not_mem_keys_of_nodup hk
    have hke : k ∉ Assoc.keys es := (List.nodup_cons.1 (List.nodup_append.1 hk).2.1).1
    have happ : into ++ (k, v) :: es = into ++ [(k, v)] ++ es := by simp
    obtain ⟨o, ho, h⟩ := evaluateEntries_cons_eq_ok_iff.1 h
    -- Nothing after it is put under this key, so the value found there is that of this entry.
    have hg := get?_of_evaluateEntries (keys_readEntries es ▸ hke) h
    rw [Assoc.get?_append_of_not_mem hki] at hg
    simp only [Assoc.get?, if_pos] at hg
    cases o with
    | none =>
      have hn := Assoc.get?_append_of_not_mem hki []
      rw [List.append_nil] at hn
      cases hg.trans hn
    | some u =>
      obtain rfl : v = u := Option.some.inj (hg.trans (Assoc.get?_insert_self _ _ _))
      simp only [Option.elim_some] at h
      rw [Assoc.insert_of_not_mem hki, happ] at h
      rw [inertEntries, ihv (bind_pure_eq_ok_iff.2 ⟨_, ho, rfl⟩),
        ihes _ (by simpa [Assoc.keys] using hk) h]
      rfl

theorem plain_of_evaluate_read
    (h : ∀ d, (read (renderLiteral v)).evaluate d = .ok (some v)) : (literal v).plain = true := by
  by_cases hs : ∃ s, v = .string s
  · obtain ⟨s, rfl⟩ := hs
    rfl
  · have hne : ∀ s, v = .string s → False := fun s h => hs ⟨s, h⟩
    rw [renderLiteral] at h
    · rw [plain]
      · exact inert_of_evaluate_read_mutual.1 v (bind_pure_eq_ok_iff.2 ⟨_, h [], rfl⟩)
      · exact hne
    · exact hne

/-- Exactly the plain constants are read back as themselves. -/
theorem plain_literal_iff :
    (literal v).plain = true ↔ ∀ d, (read (renderLiteral v)).evaluate d = .ok (some v) :=
  ⟨fun h d => (evaluate_read_mutual d).1 _ h _ (render_literal_eq_ok_iff.2 rfl),
    plain_of_evaluate_read⟩

end Expression

end DocumentDb
