import DocumentDb.Pipeline.Sort
import DocumentDb.Proofs.Value.Measured

/-!
# Sorting is stable

Documents are compared key by key: the first key that tells two of them apart puts one before the
other (`Precedes`), and documents that no key tells apart are `tied`.

**Measured documents** (`measuredAt`) have measured values at all keys. Three of them are compared
without contradiction (`composes_orderBy`), so that a list of them can be put in order.

**Stable sorts** (`StableSort`). A list is the stable sort of another one if it holds the same
documents, none of them behind one that it precedes, and tied documents as they stood. There is no
more than one (`StableSort.unique`), and this is what all equations between sorted lists rest on.

**Theorem (`sortByKeys_stable`).** Sorting measured documents gives their stable sort. Sorting by
some keys and then by others is sorting by the others before the first ones, and sorting again
changes nothing.
-/

namespace DocumentDb

variable {k : SortKey} {keys ks ls : List SortKey} {c d e : Document}

/-! ## Comparing by keys -/

theorem SortKey.order_swap (k : SortKey) (d e : Document) : (k.order d e).swap = k.order e d := by
  cases k <;> exact Value.order_swap _ _

theorem orderBy_swap (keys : List SortKey) (d e : Document) :
    (orderBy keys d e).swap = orderBy keys e d := by
  induction keys with
  | nil => rfl
  | cons k keys ih => rw [orderBy, orderBy, Ordering.swap_then, k.order_swap, ih]

theorem orderBy_self (keys : List SortKey) (d : Document) : orderBy keys d d = .eq := by
  have h := orderBy_swap keys d d
  cases hd : orderBy keys d d <;> simp_all

theorem isLE_orderBy_of_ne_lt (h : orderBy keys d e ≠ .lt) :
    (orderBy keys e d).isLE = true := by
  rw [← orderBy_swap]
  cases hd : orderBy keys d e <;> simp_all

theorem orderBy_append (ks ls : List SortKey) (d e : Document) :
    orderBy (ks ++ ls) d e = (orderBy ks d e).then (orderBy ls d e) := by
  induction ks with
  | nil => rfl
  | cons k ks ih => rw [List.cons_append, orderBy, orderBy, ih, Ordering.then_assoc]

/-! ### The first key that tells documents apart -/

/-- Whether no key tells two documents apart. -/
def tied (keys : List SortKey) (d e : Document) : Bool :=
  keys.all fun k => k.order d e == .eq

/-- The first of the keys that tells two documents apart puts `d` before `e`. -/
def Precedes (keys : List SortKey) (d e : Document) : Prop :=
  ∃ ks k ls, keys = ks ++ k :: ls ∧ tied ks d e = true ∧ k.order d e = .lt

theorem tied_iff : tied keys d e = true ↔ orderBy keys d e = .eq := by
  induction keys with
  | nil => simp [tied, orderBy]
  | cons k keys ih =>
    rw [orderBy, Ordering.then_eq_eq, ← ih]
    simp [tied]

theorem tied_append : tied (ks ++ ls) d e = (tied ks d e && tied ls d e) := by
  rw [tied, List.all_append, tied, tied]

theorem orderBy_eq_lt_iff : orderBy keys d e = .lt ↔ Precedes keys d e := by
  constructor
  · intro h
    induction keys with
    | nil => cases h
    | cons k keys ih =>
      rw [orderBy, Ordering.then_eq_lt] at h
      rcases h with h | ⟨hk, h⟩
      · exact ⟨[], k, keys, rfl, rfl, h⟩
      · obtain ⟨ks, l, ls, rfl, ht, hl⟩ := ih h
        exact ⟨k :: ks, l, ls, rfl, by simpa [tied, hk] using ht, hl⟩
  · rintro ⟨ks, k, ls, rfl, ht, hk⟩
    rw [orderBy_append, tied_iff.1 ht, orderBy, hk]
    rfl

theorem isLE_orderBy_iff :
    (orderBy keys d e).isLE = true ↔ Precedes keys d e ∨ tied keys d e = true := by
  rw [← orderBy_eq_lt_iff, tied_iff]
  cases orderBy keys d e <;> simp

/-! ## Measured documents -/

/-- Whether the values of a document at some keys are measured. -/
def measuredAt (keys : List SortKey) (d : Document) : Bool :=
  keys.all fun k => (d.lookupOrNull k.field).measured

theorem measuredAt_append :
    measuredAt (ks ++ ls) d = (measuredAt ks d && measuredAt ls d) := by
  rw [measuredAt, List.all_append, measuredAt, measuredAt]

theorem SortKey.composes_order (hc : (c.lookupOrNull k.field).measured = true)
    (hd : (d.lookupOrNull k.field).measured = true)
    (he : (e.lookupOrNull k.field).measured = true) :
    Composes (k.order c d) (k.order d e) (k.order c e) := by
  cases k with
  | ascending f => exact Value.composes_order hc hd he
  | descending f => exact (Value.composes_order he hd hc).reverse

/-- **Three measured documents** are compared without contradiction. -/
theorem composes_orderBy (hc : measuredAt keys c = true) (hd : measuredAt keys d = true)
    (he : measuredAt keys e = true) :
    Composes (orderBy keys c d) (orderBy keys d e) (orderBy keys c e) := by
  induction keys with
  | nil => exact .of_eq
  | cons k keys ih =>
    simp only [measuredAt, List.all_cons, Bool.and_eq_true] at hc hd he
    exact (k.composes_order hc.1 hd.1 he.1).lex fun _ _ => ih hc.2 hd.2 he.2

/-! ## Stable sorts -/

variable {docs sorted middle : List Document}

/-- A list is the stable sort of some documents by some keys. -/
structure StableSort (keys : List SortKey) (docs sorted : List Document) : Prop where
  perm : sorted.Perm docs
  ordered : sorted.Pairwise fun d e => (orderBy keys d e).isLE = true
  stable : ∀ d, measuredAt keys d = true →
    sorted.filter (tied keys d) = docs.filter (tied keys d)

namespace StableSort

theorem nil (keys : List SortKey) : StableSort keys [] [] :=
  ⟨.refl [], .nil, fun _ _ => rfl⟩

/-- Ordered lists of the same documents agree if they hold tied documents in the same order. -/
theorem eq_of_ordered {xs ys : List Document} (hp : xs.Perm ys)
    (hx : xs.Pairwise fun d e => (orderBy keys d e).isLE = true)
    (hy : ys.Pairwise fun d e => (orderBy keys d e).isLE = true)
    (ht : ∀ d ∈ xs, xs.filter (tied keys d) = ys.filter (tied keys d)) : xs = ys := by
  induction xs generalizing ys with
  | nil => exact hp.symm.eq_nil.symm
  | cons x xs ih =>
    cases ys with
    | nil => exact hp.eq_nil
    | cons y ys =>
      rw [List.pairwise_cons] at hx hy
      -- Each of the first documents is found in the other list, so neither precedes the other.
      have hxy : (orderBy keys x y).isLE = true := by
        rcases List.mem_cons.1 (hp.mem_iff.2 List.mem_cons_self) with rfl | h
        · rw [orderBy_self]
          rfl
        · exact hx.1 y h
      have hyx : (orderBy keys y x).isLE = true := by
        rcases List.mem_cons.1 (hp.mem_iff.1 List.mem_cons_self) with rfl | h
        · rw [orderBy_self]
          rfl
        · exact hy.1 x h
      have heq : orderBy keys x y = .eq := by
        rw [← orderBy_swap] at hyx
        cases h : orderBy keys x y <;> simp_all
      have hhead := ht x List.mem_cons_self
      rw [List.filter_cons_of_pos (tied_iff.2 (orderBy_self keys x)),
        List.filter_cons_of_pos (tied_iff.2 heq)] at hhead
      obtain rfl := (List.cons.inj hhead).1
      congr 1
      refine ih ((List.perm_cons x).1 hp) hx.2 hy.2 fun d hd => ?_
      have hd' := ht d (List.mem_cons_of_mem x hd)
      by_cases hdx : tied keys d x = true
      · rw [List.filter_cons_of_pos hdx, List.filter_cons_of_pos hdx] at hd'
        exact (List.cons.inj hd').2
      · rwa [List.filter_cons_of_neg hdx, List.filter_cons_of_neg hdx] at hd'

/-- There is no more than one stable sort. -/
theorem unique {sorted' : List Document} (hm : ∀ d ∈ docs, measuredAt keys d = true)
    (h : StableSort keys docs sorted) (h' : StableSort keys docs sorted') :
    sorted = sorted' := by
  refine eq_of_ordered (h.perm.trans h'.perm.symm) h.ordered h'.ordered fun d hd => ?_
  have hd' := hm d (h.perm.mem_iff.1 hd)
  rw [h.stable d hd', h'.stable d hd']

/-- A list in order is its own stable sort. -/
theorem of_ordered (h : docs.Pairwise fun d e => (orderBy keys d e).isLE = true) :
    StableSort keys docs docs :=
  ⟨.refl docs, h, fun _ _ => rfl⟩

theorem filter_tied_append (xs : List Document) (d : Document) :
    xs.filter (tied (ks ++ ls) d) = (xs.filter (tied ks d)).filter (tied ls d) := by
  rw [List.filter_filter]
  exact List.filter_congr fun e _ => by rw [tied_append, Bool.and_comm]

theorem filter_tied_comm (xs : List Document) (d : Document) :
    (xs.filter (tied ks d)).filter (tied ls d) = (xs.filter (tied ls d)).filter (tied ks d) := by
  rw [List.filter_filter, List.filter_filter]
  exact List.filter_congr fun e _ => Bool.and_comm _ _

/-- A sort by the first keys of what the others have sorted is a sort by all. -/
theorem append (hm : ∀ d ∈ docs, measuredAt ks d = true) (hl : StableSort ls docs middle)
    (hk : StableSort ks middle sorted) : StableSort (ks ++ ls) docs sorted where
  perm := hk.perm.trans hl.perm
  ordered := by
    rw [List.pairwise_iff_forall_sublist]
    intro d e hde
    rw [orderBy_append]
    have hle := List.pairwise_iff_forall_sublist.1 hk.ordered hde
    cases hd : orderBy ks d e with
    | lt => rfl
    | gt =>
      rw [hd] at hle
      cases hle
    | eq =>
      -- Tied by the first keys, the two stand as they stood before.
      have hdm : d ∈ docs :=
        hl.perm.mem_iff.1 (hk.perm.mem_iff.1 (hde.subset List.mem_cons_self))
      have hsub := hde.filter (tied ks d)
      rw [List.filter_cons_of_pos (tied_iff.2 (orderBy_self ks d)),
        List.filter_cons_of_pos (tied_iff.2 hd), List.filter_nil,
        hk.stable d (hm d hdm)] at hsub
      exact List.pairwise_iff_forall_sublist.1 hl.ordered (hsub.trans List.filter_sublist)
  stable d hd := by
    rw [measuredAt_append, Bool.and_eq_true] at hd
    rw [filter_tied_append, filter_tied_append, hk.stable d hd.1, filter_tied_comm,
      hl.stable d hd.2, filter_tied_comm]

/-! ### One document more -/

/-- A document goes behind those that do not come after it and in front of the others. -/
theorem between {earlier later : List Document} (h : StableSort keys docs (earlier ++ later))
    (hm : ∀ e ∈ docs ++ [d], measuredAt keys e = true)
    (hbefore : ∀ e ∈ earlier, (orderBy keys e d).isLE = true)
    (hafter : ∀ e ∈ later, orderBy keys d e = .lt) :
    StableSort keys (docs ++ [d]) (earlier ++ d :: later) where
  perm := List.perm_middle.trans ((h.perm.cons d).trans (List.perm_append_singleton d docs).symm)
  ordered := by
    obtain ⟨hearlier, hlater, hbetween⟩ := List.pairwise_append.1 h.ordered
    refine List.pairwise_append.2 ⟨hearlier, List.pairwise_cons.2 ⟨?_, hlater⟩, ?_⟩
    · intro e he
      rw [hafter e he]
      rfl
    · intro e he x hx
      rcases List.mem_cons.1 hx with rfl | hx
      · exact hbefore e he
      · exact hbetween e he x hx
  stable x hx := by
    have hf := h.stable x hx
    rw [List.filter_append] at hf ⊢
    by_cases hxd : tied keys x d = true
    · -- What comes after `d` comes after `x`, so nothing tied with `x` is behind `d`.
      have hnone : later.filter (tied keys x) = [] := by
        rw [List.filter_eq_nil_iff]
        intro e he hxe
        have hme : measuredAt keys e = true :=
          hm e (List.mem_append_left _ (h.perm.mem_iff.1 (List.mem_append_right _ he)))
        have hxde := (composes_orderBy hx (hm d (by simp)) hme).of_left (tied_iff.1 hxd)
        rw [hafter e he, tied_iff.1 hxe] at hxde
        cases hxde
      rw [hnone, List.append_nil] at hf
      rw [List.filter_cons_of_pos hxd, hnone, hf, List.filter_append,
        List.filter_cons_of_pos hxd, List.filter_nil]
    · rw [List.filter_cons_of_neg hxd, hf, List.filter_append, List.filter_cons_of_neg hxd,
        List.filter_nil, List.append_nil]

end StableSort

/-! ## Insertion -/

/-- A document is put behind those that it comes before, in a list held from the last. -/
theorem exists_insertByKeys_eq (keys : List SortKey) (d : Document) (rest : List Document) :
    ∃ later earlier, rest = later ++ earlier ∧
      insertByKeys keys d rest = later ++ d :: earlier ∧
      (∀ e ∈ later, orderBy keys d e = .lt) ∧ ∀ e ∈ earlier.head?, orderBy keys d e ≠ .lt := by
  induction rest with
  | nil => exact ⟨[], [], rfl, rfl, by simp, by simp⟩
  | cons e rest ih =>
    rw [insertByKeys]
    by_cases h : orderBy keys d e = .lt
    · obtain ⟨later, earlier, rfl, hi, hl, he⟩ := ih
      refine ⟨e :: later, earlier, rfl, by rw [if_pos h, hi]; rfl, ?_, he⟩
      intro x hx
      rcases List.mem_cons.1 hx with rfl | hx
      · exact h
      · exact hl x hx
    · exact ⟨[], e :: rest, rfl, by rw [if_neg h]; rfl, by simp, by simpa using h⟩

/-- What is not in front of the last one of an ordered list is in front of none. -/
theorem isLE_orderBy_of_head? {earlier : List Document}
    (ho : earlier.reverse.Pairwise fun d e => (orderBy keys d e).isLE = true)
    (hm : ∀ e ∈ earlier, measuredAt keys e = true) (hd : measuredAt keys d = true)
    (hh : ∀ e ∈ earlier.head?, orderBy keys d e ≠ .lt) :
    ∀ e ∈ earlier, (orderBy keys e d).isLE = true := by
  intro e he
  cases earlier with
  | nil => cases he
  | cons x earlier =>
    have hxd : (orderBy keys x d).isLE = true := isLE_orderBy_of_ne_lt (hh x rfl)
    rcases List.mem_cons.1 he with rfl | he'
    · exact hxd
    · rw [List.reverse_cons, List.pairwise_append] at ho
      have hex := ho.2.2 e (List.mem_reverse.2 he') x (List.mem_singleton_self x)
      exact (composes_orderBy (hm e he) (hm x List.mem_cons_self) hd).isLE hex hxd

theorem StableSort.insert {rest : List Document} (h : StableSort keys docs rest.reverse)
    (hm : ∀ e ∈ docs ++ [d], measuredAt keys e = true) :
    StableSort keys (docs ++ [d]) (insertByKeys keys d rest).reverse := by
  obtain ⟨later, earlier, rfl, hi, hl, he⟩ := exists_insertByKeys_eq keys d rest
  have hme : ∀ e ∈ earlier, measuredAt keys e = true := fun e he =>
    hm e (List.mem_append_left _ (h.perm.mem_iff.1 (by simp [he])))
  rw [List.reverse_append] at h
  have ho := (List.pairwise_append.1 h.ordered).1
  have hb := isLE_orderBy_of_head? ho hme (hm d (by simp)) he
  have := h.between hm (by simpa using hb) (by simpa using hl)
  simpa [hi] using this

theorem stableSort_foldl {rest more : List Document} (h : StableSort keys docs rest.reverse)
    (hm : ∀ e ∈ docs ++ more, measuredAt keys e = true) :
    StableSort keys (docs ++ more)
      (more.foldl (fun sorted d => insertByKeys keys d sorted) rest).reverse := by
  induction more generalizing docs rest with
  | nil => simpa using h
  | cons d more ih =>
    rw [List.append_cons] at hm ⊢
    exact ih (h.insert fun e he => hm e (List.mem_append_left _ he)) hm

/-- Sorting measured documents gives their stable sort. -/
theorem stableSort_sortByKeys (hm : ∀ d ∈ docs, measuredAt keys d = true) :
    StableSort keys docs (sortByKeys keys docs) := by
  have h : StableSort keys [] ([] : List Document).reverse := .nil keys
  exact stableSort_foldl h hm

theorem sortByKeys_append (hm : ∀ d ∈ docs, measuredAt (ks ++ ls) d = true) :
    sortByKeys (ks ++ ls) docs = sortByKeys ks (sortByKeys ls docs) := by
  simp only [measuredAt_append, Bool.and_eq_true] at hm
  have hl : StableSort ls docs (sortByKeys ls docs) :=
    stableSort_sortByKeys fun d hd => (hm d hd).2
  have hk : StableSort ks (sortByKeys ls docs) (sortByKeys ks (sortByKeys ls docs)) :=
    stableSort_sortByKeys fun d hd => (hm d (hl.perm.mem_iff.1 hd)).1
  have hm' : ∀ d ∈ docs, measuredAt (ks ++ ls) d = true := by
    simpa [measuredAt_append] using hm
  exact (stableSort_sortByKeys hm').unique hm' (hl.append (fun d hd => (hm d hd).1) hk)

/-- Sorting leaves a list in order as it is. -/
theorem sortByKeys_of_ordered (hm : ∀ d ∈ docs, measuredAt keys d = true)
    (h : docs.Pairwise fun d e => (orderBy keys d e).isLE = true) : sortByKeys keys docs = docs :=
  (stableSort_sortByKeys hm).unique hm (.of_ordered h)

/-- **Sorting is stable.** Measured documents are rearranged so that each one precedes those behind
it or is tied with them, and tied ones stay in their order. So the keys of a sort can be taken in
two turns, the last ones first, and sorting again changes nothing. -/
theorem sortByKeys_stable (keys : List SortKey) (docs : List Document)
    (hm : ∀ d ∈ docs, measuredAt keys d = true) :
    (sortByKeys keys docs).Perm docs ∧
      ((sortByKeys keys docs).Pairwise fun d e => Precedes keys d e ∨ tied keys d e = true) ∧
      (∀ d ∈ docs, (sortByKeys keys docs).filter (tied keys d) = docs.filter (tied keys d)) ∧
      (∀ ks ls, keys = ks ++ ls → sortByKeys keys docs = sortByKeys ks (sortByKeys ls docs)) ∧
      sortByKeys keys (sortByKeys keys docs) = sortByKeys keys docs := by
  have h := stableSort_sortByKeys hm
  refine ⟨h.perm, h.ordered.imp isLE_orderBy_iff.1, fun d hd => h.stable d (hm d hd), ?_, ?_⟩
  · rintro ks ls rfl
    exact sortByKeys_append hm
  · exact sortByKeys_of_ordered (fun d hd => hm d (h.perm.mem_iff.1 hd)) h.ordered

/-- Ages of two widths, the greatest first and equal ones by name. Who has no age comes last. -/
theorem sortByKeys_stable_by_age :
    let keys := [SortKey.descending "age", .ascending "name"]
    let docs : List Document :=
      [[("name", .string "c"), ("age", .int32 30)], [("name", .string "b")],
        [("name", .string "a"), ("age", .int64 30)], [("name", .string "d"), ("age", .int64 40)]]
    (∀ d ∈ docs, measuredAt keys d = true) ∧ (sortByKeys keys docs).Perm docs ∧
      sortByKeys keys docs =
        sortByKeys [.descending "age"] (sortByKeys [.ascending "name"] docs) := by
  intro keys docs
  have hm : ∀ d ∈ docs, measuredAt keys d = true := by decide
  obtain ⟨hperm, -, -, hturns, -⟩ := sortByKeys_stable keys docs hm
  exact ⟨hm, hperm, hturns [.descending "age"] [.ascending "name"] rfl⟩

example : sortByKeys [.descending "age", .ascending "name"]
    [[("name", .string "c"), ("age", .int32 30)], [("name", .string "b")],
      [("name", .string "a"), ("age", .int64 30)]] =
    [[("name", .string "a"), ("age", .int64 30)], [("name", .string "c"), ("age", .int32 30)],
      [("name", .string "b")]] := by
  rfl

end DocumentDb
