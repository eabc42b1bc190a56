import DocumentDb.Proofs.Binary64.Nearest
import DocumentDb.Proofs.Memory.Single
import DocumentDb.Proofs.Pipeline.Group
import DocumentDb.Proofs.Value.Measured
import Mathlib.Data.Finset.Dedup

/-!
# Integers among values

Integers of both widths are compared as doubles. What the order, equality filters, unique indexes
and groups make of them is therefore told by the nearest doubles alone.

**Theorem (`integers_compare_as_doubles`).** Each of the four tells two integers apart exactly if
their nearest doubles are two. So an integer compares with all others by value exactly if it has a
double of its own, which fails for most integers from `2 ^ 53` on.
-/

namespace DocumentDb

open Binary64

/-! ## Comparing -/

namespace Value

variable {v w : Value} {m n : Int}

theorem bounds_of_integer? (h : v.integer? = some n) : -2 ^ 63 ≤ n ∧ n < 2 ^ 63 := by
  cases v with
  | int32 k =>
    cases h
    have := k.le_toInt
    have := k.toInt_lt
    omega
  | int64 k =>
    cases h
    exact ⟨k.le_toInt, k.toInt_lt⟩
  | _ => cases h

theorem exists_integer?_eq (hl : -2 ^ 63 ≤ n) (hu : n < 2 ^ 63) :
    ∃ v : Value, v.integer? = some n :=
  ⟨int64 (Int64.ofInt n), congrArg some (Int64.toInt_ofInt_of_le hl hu)⟩

theorem asDouble?_of_integer? (h : v.integer? = some n) : v.asDouble? = some (ofInt n) := by
  cases v <;> cases h <;> rfl

theorem bracket_of_integer? (h : v.integer? = some n) : v.bracket = 2 := by
  cases v <;> cases h <;> rfl

/-- Integers compare as their nearest doubles do. -/
theorem order_of_integer? (hv : v.integer? = some m) (hw : w.integer? = some n) :
    v.order w = compare (nearest m) (nearest n) := by
  have hm := bounds_of_integer? hv
  have hn := bounds_of_integer? hw
  rw [order_of_not_nested (by rintro _ _ rfl; cases hv) (by rintro _ _ rfl; cases hv),
    bracket_of_integer? hv, bracket_of_integer? hw,
    orderScalars_of_asDouble? (asDouble?_of_integer? hv) (asDouble?_of_integer? hw),
    totalCompare_ofInt (by omega) (by omega)]
  rfl

theorem alike_of_integer? (hv : v.integer? = some m) (hw : w.integer? = some n) :
    v.alike w = decide (nearest m = nearest n) := by
  rw [alike, order_of_integer? hv hw, Bool.eq_iff_iff, beq_iff_eq, decide_eq_true_iff]
  exact compare_eq_iff_eq

/-- An integer compares with all others by value exactly if it has a double of its own. -/
theorem order_by_value_iff (hv : v.integer? = some n) :
    (∀ w m, w.integer? = some m → v.order w = compare n m) ↔ HasOwnDouble n := by
  obtain ⟨hl, hu⟩ := bounds_of_integer? hv
  rw [hasOwnDouble_iff hl hu]
  constructor
  · intro h m hml hmu he
    obtain ⟨w, hw⟩ := exists_integer?_eq hml hmu
    have := h w m hw
    rw [order_of_integer? hv hw, he, compare_eq_iff_eq.2 rfl] at this
    exact (compare_eq_iff_eq.1 this.symm).symm
  · intro h w m hw
    obtain ⟨hml, hmu⟩ := bounds_of_integer? hw
    rw [order_of_integer? hv hw]
    rcases lt_trichotomy n m with hlt | rfl | hgt
    · have := lt_of_le_of_ne (nearest_mono hlt.le) fun he => hlt.ne' (h m hml hmu he.symm)
      rw [compare_lt_iff_lt.2 hlt, compare_lt_iff_lt.2 this]
    · rw [compare_eq_iff_eq.2 rfl, compare_eq_iff_eq.2 rfl]
    · have := lt_of_le_of_ne (nearest_mono hgt.le) fun he => hgt.ne (h m hml hmu he)
      rw [compare_gt_iff_gt.2 hgt, compare_gt_iff_gt.2 this]

end Value

/-! ## Finding -/

theorem Filter.holds_eq_of_integer? {field : String} {d : Document} {v w : Value} {m n : Int}
    (hd : d.lookup field = some v) (hv : v.integer? = some m) (hw : w.integer? = some n) :
    (Filter.compare field .eq w).holds d = .ok (decide (nearest m = nearest n)) := by
  rw [Filter.holds, Filter.comparisonHolds, hd, ← Value.alike_of_integer? hv hw]
  cases v <;> cases hv <;> rfl

/-! ## Indexing -/

namespace Memory.Collection

variable {c : Collection} {name id field : String} {d : Document} {number : Document → Int}

theorem clashes_iff_of_integer? {n : Int} (hc : c.indexes = [⟨field, true⟩])
    (hd : (d.lookupOrNull field).integer? = some n)
    (hn : ∀ e ∈ c.documents, (e.lookupOrNull field).integer? = some (number e)) :
    c.Clashes d ↔ ∃ e ∈ c.documents, nearest (number e) = nearest n := by
  have ha (e) (he : e ∈ c.documents) :
      (e.lookupOrNull field).alike (d.lookupOrNull field) = true ↔
        nearest (number e) = nearest n := by
    rw [Value.alike_of_integer? (hn e he) hd, decide_eq_true_iff]
  simp only [Clashes, hc, List.mem_singleton, exists_eq_left, true_and, Index.valueOf]
  constructor
  · rintro ⟨e, he, h⟩
    exact ⟨e, he, (ha e he).1 h⟩
  · rintro ⟨e, he, h⟩
    exact ⟨e, he, (ha e he).2 h⟩

end Memory.Collection

/-! ## Grouping -/

section

variable {id : Expression} {fields : List GroupField} {docs : List Document} {ids : List Value}
  {number : Document → Int}

/-- A partition has one key for each nearest double of an integer that is a key. -/
theorem Partition.length_eq_card (h : Partition id ids docs)
    (hn : ∀ d ∈ docs, (keyOn id d).integer? = some (number d)) :
    ids.length = (docs.map fun d => nearest (number d)).toFinset.card := by
  let near (v : Value) : Int := nearest (v.integer?.getD 0)
  have hkey (d) (hd : d ∈ docs) : near (keyOn id d) = nearest (number d) := by
    simp only [near, hn d hd, Option.getD_some]
  have halike (v) (hv : v ∈ ids) (d) (hd : d ∈ docs) :
      v.alike (keyOn id d) = decide (near v = nearest (number d)) := by
    obtain ⟨e, he, rfl⟩ := h.exists_keyOn_eq hv
    rw [Value.alike_of_integer? (hn e he) (hn d hd), hkey e he]
  have hnodup : (ids.map near).Nodup := by
    rw [List.Nodup, List.pairwise_map]
    refine h.unlike.imp_of_mem fun {v w} hv hw hvw => ?_
    obtain ⟨d, hd, rfl⟩ := h.exists_keyOn_eq hw
    rw [halike v hv d hd, decide_eq_false_iff_not] at hvw
    rwa [hkey d hd]
  have hmem : (ids.map near).toFinset = (docs.map fun d => nearest (number d)).toFinset := by
    ext k
    simp only [List.mem_toFinset, List.mem_map]
    constructor
    · rintro ⟨v, hv, rfl⟩
      obtain ⟨d, hd, rfl⟩ := h.exists_keyOn_eq hv
      exact ⟨d, hd, (hkey d hd).symm⟩
    · rintro ⟨d, hd, rfl⟩
      obtain ⟨i, hi⟩ := h.housed d hd
      obtain ⟨hlt, hv, -⟩ := List.findIdx?_eq_some_iff_getElem.1 hi
      have hv' := List.getElem_mem hlt
      rw [halike _ hv' d hd, decide_eq_true_iff] at hv
      exact ⟨_, hv', hv⟩
  rw [← hmem, List.toFinset_card_of_nodup hnodup, List.length_map]

theorem length_group_of_integer? (h : Groupable id fields docs)
    (hn : ∀ d ∈ docs, (keyOn id d).integer? = some (number d)) :
    ∃ out, group id (fields.map GroupField.fragment) docs = .ok out ∧
      out.length = (docs.map fun d => nearest (number d)).toFinset.card := by
  obtain ⟨ids, hp, hg⟩ := h.exists_groupsOf_eq
  refine ⟨_, group_eq_ok h.free hg, ?_⟩
  rw [List.length_map, groupsAt, List.length_mapIdx, hp.length_eq_card hn]

/-- What can be grouped can be grouped without some of its documents. -/
theorem Groupable.of_subset {docs' : List Document} (h : Groupable id fields docs')
    (hs : docs ⊆ docs') : Groupable id fields docs where
  toEvaluable := h.toEvaluable.of_subset hs
  distinct := h.distinct
  free := h.free

/-- One more document opens a group exactly if its key has another nearest double than those before
it. -/
theorem length_group_concat {d : Document} {n : Int} (h : Groupable id fields (docs ++ [d]))
    (hd : (keyOn id d).integer? = some n)
    (hn : ∀ e ∈ docs, (keyOn id e).integer? = some (number e)) :
    ∃ out out', group id (fields.map GroupField.fragment) docs = .ok out ∧
      group id (fields.map GroupField.fragment) (docs ++ [d]) = .ok out' ∧
      out'.length = out.length +
        if ∃ e ∈ docs, nearest (number e) = nearest n then 0 else 1 := by
  obtain ⟨out, hout, hlen⟩ := length_group_of_integer? (h.of_subset (List.subset_append_left ..)) hn
  -- the integers of all keys, that of the new document among them
  let num (e : Document) : Int := (keyOn id e).integer?.getD 0
  have hnum (e) (he : e ∈ docs) : num e = number e := by simp only [num, hn e he, Option.getD_some]
  have hall : ∀ e ∈ docs ++ [d], (keyOn id e).integer? = some (num e) := by
    intro e he
    rcases List.mem_append.1 he with he | he
    · rw [hnum e he, hn e he]
    · rw [List.mem_singleton.1 he]
      simp only [num, hd, Option.getD_some]
  obtain ⟨out', hout', hlen'⟩ := length_group_of_integer? h hall
  refine ⟨out, out', hout, hout', ?_⟩
  have hmap : (docs.map fun e => nearest (num e)) = docs.map fun e => nearest (number e) :=
    List.map_congr_left fun e he => by rw [hnum e he]
  have hnd : num d = n := by simp only [num, hd, Option.getD_some]
  rw [hlen', hlen, List.map_append, List.map_singleton, hmap, hnd, List.toFinset_append,
    List.toFinset_cons, List.toFinset_nil, insert_empty_eq, Finset.union_comm,
    ← Finset.insert_eq, Finset.card_insert_eq_ite]
  simp only [List.mem_toFinset, List.mem_map]
  split <;> rfl

end

/-! ## Main result -/

/-- **Integers compare as doubles.** An integer becomes its nearest double: no double is an integer
that is nearer to it. The order, equality filters, unique indexes and groups tell two integers apart
exactly if their nearest doubles are two. An integer is told apart from all others exactly if it has
a double of its own. -/
theorem integers_compare_as_doubles {v : Value} {n : Int} (hv : v.integer? = some n) :
    (∃ x, v.asDouble? = some x ∧ x.toInt? = some (nearest n)) ∧
    (∀ (y : Binary64) m, y.toInt? = some m → (nearest n - n).natAbs ≤ (m - n).natAbs) ∧
    (∀ w m, w.integer? = some m → v.order w = compare (nearest n) (nearest m)) ∧
    ((∀ w m, w.integer? = some m → v.order w = compare n m) ↔ HasOwnDouble n) ∧
    (∀ field (d : Document) w m, d.lookup field = some v → w.integer? = some m →
      (Filter.compare field .eq w).holds d = .ok (decide (nearest n = nearest m))) ∧
    (∀ (c : Memory.Collection) name id field d (number : Document → Int),
      c.indexes = [⟨field, true⟩] → (d.withId id).lookupOrNull field = v →
      (∀ e ∈ c.documents, (e.lookupOrNull field).integer? = some (number e)) →
        ((∃ e, c.apply name (.insert id d) = .ok e) ↔
          ¬ c.Stores id ∧ ∀ e ∈ c.documents, nearest (number e) ≠ nearest n)) ∧
    (∀ id fields docs d (number : Document → Int), Groupable id fields (docs ++ [d]) →
      keyOn id d = v → (∀ e ∈ docs, (keyOn id e).integer? = some (number e)) →
        ∃ out out', group id (fields.map GroupField.fragment) docs = .ok out ∧
          group id (fields.map GroupField.fragment) (docs ++ [d]) = .ok out' ∧
          out'.length = out.length +
            if ∃ e ∈ docs, nearest (number e) = nearest n then 0 else 1) := by
  refine ⟨⟨_, Value.asDouble?_of_integer? hv, toInt?_ofInt ?_⟩,
    fun _ _ => natAbs_nearest_sub_le n,
    fun _ _ hw => Value.order_of_integer? hv hw, Value.order_by_value_iff hv,
    fun _ _ _ _ hd hw => Filter.holds_eq_of_integer? hd hv hw, ?_,
    fun _ _ _ _ _ h hd hn => length_group_concat h (hd ▸ hv) hn⟩
  · have := Value.bounds_of_integer? hv
    omega
  intro c name id field d number hc hd hn
  rw [Memory.Collection.insert_made_iff,
    Memory.Collection.clashes_iff_of_integer? hc (hd ▸ hv) hn, not_or, not_exists]
  simp only [not_and]

/-- Of two long integers, one has a double of its own and one has not. -/
theorem integers_compare_as_doubles_beyond_limit :
    (∀ (w : Value) m, w.integer? = some m →
        (Value.int64 9007199254740994).order w = compare 9007199254740994 m) ∧
      ¬ ∀ (w : Value) m, w.integer? = some m →
        (Value.int64 9007199254740993).order w = compare 9007199254740993 m := by
  have h₁ : (Value.int64 9007199254740994).integer? = some 9007199254740994 := by decide
  have h₂ : (Value.int64 9007199254740993).integer? = some 9007199254740993 := by decide
  exact ⟨(integers_compare_as_doubles h₁).2.2.2.1.2 (by decide),
    fun h => absurd ((integers_compare_as_doubles h₂).2.2.2.1.1 h) (by decide)⟩

/-- Two long integers that follow one another are one value to the order, to an equality filter, to
a unique index and to a group. -/
theorem successive_integers_merged :
    let v : Value := .int64 9007199254740992
    let w : Value := .int64 9007199254740993
    let docs : List Document := [[("_id", .string "a"), ("x", v)], [("_id", .string "b"), ("x", w)]]
    v.integer? ≠ w.integer? ∧ v.order w = .eq ∧
      (∀ d ∈ docs, (Filter.compare "x" .eq w).holds d = .ok true) ∧
      (¬ ∃ e, ({ documents := docs.take 1, indexes := [⟨"x", true⟩] } : Memory.Collection).apply "c"
        (.insert "b" [("x", w)]) = .ok e) ∧
      group (.path "x") [.count "n"] docs = .ok [[("_id", v), ("n", .int32 2)]] := by
  intro v w docs
  refine ⟨by decide, rfl, ?_, ?_, rfl⟩
  · intro d hd
    simp only [docs, List.mem_cons, List.not_mem_nil, or_false] at hd
    rcases hd with rfl | rfl <;> rfl
  · rw [Memory.Collection.insert_made_iff]
    exact fun h => h (.inr ⟨_, List.mem_singleton_self _, rfl, _, List.mem_singleton_self _, rfl⟩)

end DocumentDb
