import DocumentDb.Pipeline.Render
import DocumentDb.Pipeline.Run
import DocumentDb.Proofs.Pipeline.Sort
import DocumentDb.Proofs.Value.Path
import Mathlib.Data.List.Induction

/-!
# What a sort document means

Sorting goes through the list of keys, in which a later key for a field that was there before tells
nothing more apart. The document of the sort holds each field once, in its first place and with its
last direction. So the two part where a field comes again in the other direction.

**Decisive keys** (`decisive`). A key is covered by an earlier one if its path begins with the path
of that one: documents that the earlier key does not tell apart hold alike values there, so they do
not differ further on. What is left of a list without covered keys is what it sorts by
(`orderBy_decisive`), and no key of it can be left out (`orderBy_probe`).

**Reading back** (`readSort`) makes a key of each entry of a sort document.

**Theorem (`sort_read_iff`).** The keys read back from its document sort as the list does exactly if
the document gives the fields of the decisive keys their own directions. Lists with one document
sort alike exactly if their decisive keys are the same, and each list but the empty one shares its
document with a list that sorts otherwise.
-/

namespace DocumentDb

variable {k l : SortKey} {ks ls : List SortKey} {d e : Document}

/-! ## Values further on -/

namespace Value

theorem orderEntries_eq_eq {es fs : List (String × Value)} (h : orderEntries es fs = .eq)
    (key : String) :
    (Assoc.get? es key = none ∧ Assoc.get? fs key = none) ∨
      ∃ v w, Assoc.get? es key = some v ∧ Assoc.get? fs key = some w ∧ v.order w = .eq := by
  induction es generalizing fs with
  | nil =>
    cases fs with
    | nil => exact .inl ⟨rfl, rfl⟩
    | cons f fs => cases h
  | cons e es ih =>
    cases fs with
    | nil => cases h
    | cons f fs =>
      rw [orderEntries, Ordering.then_eq_eq, Ordering.then_eq_eq] at h
      obtain ⟨hk, hv, hes⟩ := h
      have hk : e.1 = f.1 := Std.LawfulEqCmp.eq_of_compare hk
      by_cases he : e.1 = key
      · exact .inr ⟨e.2, f.2, if_pos he, if_pos (hk ▸ he), hv⟩
      · have hf : f.1 ≠ key := hk ▸ he
        rw [Assoc.get?, Assoc.get?, if_neg he, if_neg hf]
        exact ih hes

theorem orderItems_eq_eq {xs ys : List Value} (h : orderItems xs ys = .eq) (i : Nat) :
    (xs[i]? = none ∧ ys[i]? = none) ∨
      ∃ v w, xs[i]? = some v ∧ ys[i]? = some w ∧ v.order w = .eq := by
  induction xs generalizing ys i with
  | nil =>
    cases ys with
    | nil => exact .inl ⟨rfl, rfl⟩
    | cons y ys => cases h
  | cons x xs ih =>
    cases ys with
    | nil => cases h
    | cons y ys =>
      rw [orderItems, Ordering.then_eq_eq] at h
      cases i with
      | zero => exact .inr ⟨x, y, rfl, rfl, h.1⟩
      | succ i => exact ih h.2 i

/-- Values that the order does not tell apart lead to such values. -/
theorem order_resolve {v w : Value} (h : v.order w = .eq) (ss : List String) :
    ((v.resolve ss).getD .null).order ((w.resolve ss).getD .null) = .eq := by
  induction ss generalizing v w with
  | nil => simpa [resolve] using h
  | cons s ss ih =>
    have hb := h
    rw [order_eq_bracket_then, Ordering.then_eq_eq, Nat.compare_eq_eq] at hb
    by_cases h4 : v.bracket = 4
    · obtain ⟨es, rfl⟩ := eq_document_of_bracket h4
      obtain ⟨fs, rfl⟩ := eq_document_of_bracket (hb.1 ▸ h4)
      rw [order] at h
      rw [resolve, resolve]
      rcases orderEntries_eq_eq h s with ⟨hv, hw⟩ | ⟨v, w, hv, hw, hvw⟩
      · rw [hv, hw]
        exact order_self _
      · rw [hv, hw]
        exact ih hvw
    by_cases h5 : v.bracket = 5
    · obtain ⟨xs, rfl⟩ := eq_array_of_bracket h5
      obtain ⟨ys, rfl⟩ := eq_array_of_bracket (hb.1 ▸ h5)
      rw [order] at h
      rw [resolve, resolve]
      cases Text.natOfText? s with
      | none => exact order_self _
      | some i =>
        rw [Option.bind_some, Option.bind_some]
        rcases orderItems_eq_eq h i with ⟨hv, hw⟩ | ⟨v, w, hv, hw, hvw⟩
        · rw [hv, hw]
          exact order_self _
        · rw [hv, hw]
          exact ih hvw
    have hnone {u : Value} (h4 : u.bracket ≠ 4) (h5 : u.bracket ≠ 5) :
        u.resolve (s :: ss) = none := by
      cases u <;> first | rfl | contradiction
    rw [hnone h4 h5, hnone (hb.1 ▸ h4) (hb.1 ▸ h5)]
    exact order_self _

end Value

/-! ## Decisive keys -/

/-- Whether one path begins with the segments of another. -/
def Path.covers (p q : String) : Bool :=
  (segments p).isPrefixOf (segments q)

theorem Path.covers_self (p : String) : covers p p = true := by
  simp [covers]

/-- Puts an item last, unless its path is covered by that of one before it. -/
def addUncovered {α : Type} (path : α → String) (found : List α) (a : α) : List α :=
  if found.any fun b => Path.covers (path b) (path a) then found else found ++ [a]

/-- The items of a list whose paths no item before them covers. -/
def uncovered {α : Type} (path : α → String) (as : List α) : List α :=
  as.foldl (addUncovered path) []

/-- The keys that no key before them covers. -/
def decisive (ks : List SortKey) : List SortKey :=
  uncovered SortKey.field ks

section Uncovered

variable {α : Type} {path : α → String} {as : List α} {a b : α}

theorem uncovered_concat (path : α → String) (as : List α) (a : α) :
    uncovered path (as ++ [a]) = addUncovered path (uncovered path as) a := by
  rw [uncovered, List.foldl_append]
  rfl

/-- An item is added, or something covers it. -/
theorem addUncovered_cases (path : α → String) (found : List α) (a : α) :
    ((∃ b ∈ found, Path.covers (path b) (path a) = true) ∧ addUncovered path found a = found) ∨
      ((∀ b ∈ found, Path.covers (path b) (path a) = false) ∧
        addUncovered path found a = found ++ [a]) := by
  rw [addUncovered]
  cases h : found.any fun b => Path.covers (path b) (path a) with
  | true => exact .inl ⟨List.any_eq_true.1 h, rfl⟩
  | false => exact .inr ⟨by simpa using h, rfl⟩

theorem exists_covers_of_mem (h : a ∈ as) :
    ∃ b ∈ uncovered path as, Path.covers (path b) (path a) = true := by
  induction as using List.reverseRecOn with
  | nil => cases h
  | append_singleton as c ih =>
    rw [uncovered_concat]
    rcases addUncovered_cases path (uncovered path as) c with ⟨hc, hadd⟩ | ⟨-, hadd⟩
    · rw [hadd]
      rcases List.mem_append.1 h with h | h
      · exact ih h
      · exact List.mem_singleton.1 h ▸ hc
    · rw [hadd]
      rcases List.mem_append.1 h with h | h
      · obtain ⟨b, hb, hba⟩ := ih h
        exact ⟨b, List.mem_append_left _ hb, hba⟩
      · obtain rfl := List.mem_singleton.1 h
        exact ⟨a, by simp, Path.covers_self _⟩

theorem mem_of_mem_uncovered (h : a ∈ uncovered path as) : a ∈ as := by
  induction as using List.reverseRecOn with
  | nil => cases h
  | append_singleton as c ih =>
    rw [uncovered_concat] at h
    rcases addUncovered_cases path (uncovered path as) c with ⟨-, hadd⟩ | ⟨-, hadd⟩ <;>
      rw [hadd] at h
    · exact List.mem_append_left _ (ih h)
    · exact List.mem_append.2 ((List.mem_append.1 h).imp_left ih)

theorem pairwise_uncovered (path : α → String) (as : List α) :
    (uncovered path as).Pairwise fun b a => Path.covers (path b) (path a) = false := by
  induction as using List.reverseRecOn with
  | nil => exact .nil
  | append_singleton as c ih =>
    rw [uncovered_concat]
    rcases addUncovered_cases path (uncovered path as) c with ⟨-, hadd⟩ | ⟨hc, hadd⟩ <;> rw [hadd]
    · exact ih
    · refine List.pairwise_append.2 ⟨ih, List.pairwise_singleton _ _, fun b hb c' hc' => ?_⟩
      obtain rfl := List.mem_singleton.1 hc'
      exact hc b hb

theorem map_addUncovered (path : α → String) (found : List α) (a : α) :
    (addUncovered path found a).map path = addUncovered id (found.map path) (path a) := by
  rw [addUncovered, addUncovered, List.any_map, apply_ite (List.map path), List.map_append]
  rfl

/-- Which paths are left out does not depend on what else the items hold. -/
theorem map_uncovered (path : α → String) (as : List α) :
    (uncovered path as).map path = uncovered id (as.map path) := by
  induction as using List.reverseRecOn with
  | nil => rfl
  | append_singleton as a ih =>
    rw [uncovered_concat, map_addUncovered, ih, List.map_append, List.map_singleton,
      uncovered_concat]

theorem exists_uncovered_cons_eq (path : α → String) (a : α) (as : List α) :
    ∃ rest, uncovered path (a :: as) = a :: rest := by
  induction as using List.reverseRecOn with
  | nil => exact ⟨[], rfl⟩
  | append_singleton as b ih =>
    obtain ⟨rest, hr⟩ := ih
    rw [← List.cons_append, uncovered_concat, hr]
    rcases addUncovered_cases path (a :: rest) b with ⟨-, hadd⟩ | ⟨-, hadd⟩
    · exact ⟨rest, hadd⟩
    · exact ⟨rest ++ [b], hadd⟩

end Uncovered

/-! ### What a list sorts by -/

theorem SortKey.order_eq_eq_iff :
    k.order d e = .eq ↔ (d.lookupOrNull k.field).order (e.lookupOrNull k.field) = .eq := by
  cases k with
  | ascending f => rfl
  | descending f =>
    rw [← Value.order_swap, Ordering.swap_eq_eq]
    rfl

/-- Documents that a key does not tell apart are not told apart by a key that it covers. -/
theorem SortKey.order_of_covers (h : Path.covers k.field l.field = true)
    (hk : k.order d e = .eq) : l.order d e = .eq := by
  obtain ⟨s, ss, hs⟩ := Path.exists_segments_eq_cons k.field
  obtain ⟨ts, ht⟩ := List.isPrefixOf_iff_prefix.1 h
  have hl (d : Document) :
      d.lookupOrNull l.field = ((d.lookupOrNull k.field).resolve ts).getD .null := by
    rw [Document.lookupOrNull, Document.lookup, ← ht, hs, Document.resolve_append,
      Document.lookupOrNull, Document.lookup, hs]
    cases d.resolve (s :: ss) with
    | some v => rfl
    | none => cases ts <;> rfl
  rw [order_eq_eq_iff] at hk ⊢
  rw [hl d, hl e]
  exact Value.order_resolve hk ts

theorem orderBy_decisive (ks : List SortKey) (d e : Document) :
    orderBy (decisive ks) d e = orderBy ks d e := by
  induction ks using List.reverseRecOn with
  | nil => rfl
  | append_singleton ks k ih =>
    rw [decisive] at ih ⊢
    rw [uncovered_concat, orderBy_append, ← ih, orderBy, orderBy]
    rcases addUncovered_cases SortKey.field (uncovered SortKey.field ks) k with
      ⟨⟨l, hl, hlk⟩, hadd⟩ | ⟨-, hadd⟩
    · rw [hadd]
      cases ho : orderBy (uncovered SortKey.field ks) d e with
      | eq =>
        have hld : l.order d e = .eq := by
          simpa using List.all_eq_true.1 (tied_iff.2 ho) l hl
        rw [SortKey.order_of_covers hlk hld]
        rfl
      | lt | gt => rfl
    · rw [hadd, orderBy_append, orderBy, orderBy]

/-! ### Telling keys apart -/

/-- A document with a number in one field. -/
def probe (field : String) (n : Int32) : Document :=
  Document.setPath [] field (.int32 n)

theorem lookupOrNull_probe_self (field : String) (n : Int32) :
    (probe field n).lookupOrNull field = .int32 n := by
  rw [Document.lookupOrNull, probe, Document.lookup_setPath]
  rfl

theorem lookupOrNull_probe {field other : String} (h : Path.covers other field = false)
    (n : Int32) : (probe field n).lookupOrNull other = .null := by
  have h : ¬ Path.segments other <+: Path.segments field := by
    rw [← List.isPrefixOf_iff_prefix]
    exact ne_true_of_eq_false h
  have hnone : (probe field n).lookup other = none := by
    rw [Document.lookup, probe, Document.setPath]
    by_cases hp : Path.segments field <+: Path.segments other
    · -- The path goes on from the number.
      obtain ⟨ts, hts⟩ := hp
      obtain ⟨s, ss, hs⟩ := Path.exists_segments_eq_cons field
      rw [← hts, hs, Document.resolve_append, Document.resolve_setSegments, Option.bind_some]
      cases ts with
      | nil => exact (h ⟨[], by simpa using hts.symm⟩).elim
      | cons t ts => rfl
    · rw [Document.resolve_setSegments_of_apart _ ⟨hp, h⟩ (Document.throughNoArray_nil _),
        Document.resolve_nil_left]
  rw [Document.lookupOrNull, hnone]
  rfl

/-- The key says in which direction it sorts. -/
theorem SortKey.order_probe (k : SortKey) :
    k.order (probe k.field 1) (probe k.field 2) =
      match k with
      | .ascending _ => .lt
      | .descending _ => .gt := by
  cases k <;> rw [SortKey.order, lookupOrNull_probe_self, lookupOrNull_probe_self] <;> rfl

/-- A decisive key puts two documents in order that no key before it tells apart. -/
theorem orderBy_probe (h : k ∈ decisive ks) :
    orderBy ks (probe k.field 1) (probe k.field 2) =
      k.order (probe k.field 1) (probe k.field 2) := by
  obtain ⟨before, after, hs⟩ := List.append_of_mem h
  have hb : tied before (probe k.field 1) (probe k.field 2) = true := by
    refine List.all_eq_true.2 fun l hl => ?_
    have hlk : Path.covers l.field k.field = false := by
      have hp := pairwise_uncovered SortKey.field ks
      rw [show uncovered SortKey.field ks = before ++ k :: after from hs] at hp
      exact (List.pairwise_append.1 hp).2.2 l hl k List.mem_cons_self
    rw [beq_iff_eq, SortKey.order_eq_eq_iff, lookupOrNull_probe hlk, lookupOrNull_probe hlk]
    exact Value.order_self _
  rw [← orderBy_decisive, hs, orderBy_append, tied_iff.1 hb, orderBy]
  have hk := k.order_probe
  cases k <;> rw [hk] <;> rfl

theorem eq_of_orderBy_probe (hk : k ∈ decisive ks) (hl : l ∈ decisive ls)
    (hf : k.field = l.field) (h : ∀ d e, orderBy ks d e = orderBy ls d e) : k = l := by
  have hkl := h (probe k.field 1) (probe k.field 2)
  rw [orderBy_probe hk, hf, orderBy_probe hl, ← hf, k.order_probe, hf, l.order_probe] at hkl
  cases k <;> cases l <;> cases hf <;> first | rfl | cases hkl

theorem eq_of_map_eq {α β : Type} {f : α → β} {as bs : List α} (h : as.map f = bs.map f)
    (hf : ∀ a ∈ as, ∀ b ∈ bs, f a = f b → a = b) : as = bs := by
  induction as generalizing bs with
  | nil => exact (List.map_eq_nil_iff.1 h.symm).symm
  | cons a as ih =>
    cases bs with
    | nil => cases h
    | cons b bs =>
      obtain ⟨hab, h⟩ := List.cons.inj h
      rw [hf a List.mem_cons_self b List.mem_cons_self hab, ih h fun a ha b hb =>
        hf a (List.mem_cons_of_mem _ ha) b (List.mem_cons_of_mem _ hb)]

/-- Lists whose decisive keys have the same fields compare alike if these keys are the same. -/
theorem orderBy_eq_iff_decisive (hf : (decisive ks).map SortKey.field =
    (decisive ls).map SortKey.field) :
    (∀ d e, orderBy ks d e = orderBy ls d e) ↔ decisive ks = decisive ls := by
  constructor
  · intro h
    exact eq_of_map_eq hf fun k hk l hl hkl => eq_of_orderBy_probe hk hl hkl h
  · intro h d e
    rw [← orderBy_decisive ks, ← orderBy_decisive ls, h]

/-! ## Sorting two documents -/

theorem sortByKeys_pair (ks : List SortKey) (d e : Document) :
    sortByKeys ks [e, d] = if orderBy ks d e = .lt then [d, e] else [e, d] := by
  rw [sortByKeys, List.foldl_cons, List.foldl_cons, List.foldl_nil, insertByKeys, insertByKeys]
  split <;> rfl

theorem sortByKeys_congr (h : ∀ d e, orderBy ks d e = orderBy ls d e) :
    sortByKeys ks = sortByKeys ls := by
  have hi (d : Document) (es : List Document) : insertByKeys ks d es = insertByKeys ls d es := by
    induction es with
    | nil => rfl
    | cons e es ih => rw [insertByKeys, insertByKeys, h, ih]
  funext docs
  rw [sortByKeys, sortByKeys]
  simp only [hi]

/-- Lists of keys sort alike exactly if they compare alike. -/
theorem sortByKeys_eq_iff :
    (∀ docs, sortByKeys ks docs = sortByKeys ls docs) ↔
      ∀ d e, orderBy ks d e = orderBy ls d e := by
  refine ⟨fun h d e => ?_, fun h docs => congrFun (sortByKeys_congr h) docs⟩
  -- Two documents are sorted the other way round exactly if the second is below the first.
  have hlt (d e : Document) (hde : d ≠ e) : orderBy ks d e = .lt ↔ orderBy ls d e = .lt := by
    have hp := h [e, d]
    rw [sortByKeys_pair, sortByKeys_pair] at hp
    by_cases hk : orderBy ks d e = .lt <;> by_cases hl : orderBy ls d e = .lt <;> simp_all
  by_cases hde : d = e
  · rw [hde, orderBy_self, orderBy_self]
  · have hd := hlt d e hde
    have he := hlt e d (Ne.symm hde)
    rw [← orderBy_swap ks d e, ← orderBy_swap ls d e] at he
    cases hk : orderBy ks d e <;> cases hl : orderBy ls d e <;> simp_all

/-! ## Reading back -/

/-- The entry of a key in a sort document. -/
def SortKey.entry (k : SortKey) : String × Value :=
  (k.field, .int32 k.direction)

/-- The key for which an entry of a sort document stands. -/
def SortKey.ofEntry? : String × Value → Option SortKey
  | (field, .int32 n) =>
    if n = 1 then some (.ascending field)
    else if n = -1 then some (.descending field)
    else none
  | _ => none

/-- The keys for which the entries of a sort document stand. -/
def readSort (es : Document) : List SortKey :=
  es.filterMap SortKey.ofEntry?

theorem SortKey.ofEntry?_entry (k : SortKey) : ofEntry? k.entry = some k := by
  cases k <;> rfl

theorem readSort_map_entry (ks : List SortKey) : readSort (ks.map SortKey.entry) = ks := by
  rw [readSort, List.filterMap_map, show SortKey.ofEntry? ∘ SortKey.entry = some from
    funext SortKey.ofEntry?_entry, List.filterMap_some]

theorem renderSort_concat (ks : List SortKey) (k : SortKey) :
    renderSort (ks ++ [k]) = (renderSort ks).insert k.field (.int32 k.direction) := by
  rw [renderSort, List.foldl_append]
  rfl

theorem nodup_keys_renderSort (ks : List SortKey) : (renderSort ks).keys.Nodup := by
  induction ks using List.reverseRecOn with
  | nil => exact .nil
  | append_singleton ks k ih =>
    rw [renderSort_concat]
    exact Assoc.nodup_keys_insert ih _ _

theorem exists_insert_map_entry (ks : List SortKey) (k : SortKey) :
    ∃ ms : List SortKey,
      Assoc.insert (ks.map SortKey.entry) k.field (.int32 k.direction) = ms.map SortKey.entry := by
  induction ks with
  | nil => exact ⟨[k], rfl⟩
  | cons l ks ih =>
    rw [List.map_cons, SortKey.entry, Assoc.insert]
    split <;> rename_i h
    · exact ⟨k :: ks, by rw [List.map_cons, SortKey.entry, h]⟩
    · obtain ⟨ms, hms⟩ := ih
      exact ⟨l :: ms, by rw [hms]; rfl⟩

/-- A sort document holds nothing but entries of keys. -/
theorem exists_renderSort_eq (ks : List SortKey) :
    ∃ ms : List SortKey, renderSort ks = ms.map SortKey.entry := by
  induction ks using List.reverseRecOn with
  | nil => exact ⟨[], rfl⟩
  | append_singleton ks k ih =>
    obtain ⟨ms, hms⟩ := ih
    rw [renderSort_concat, hms]
    exact exists_insert_map_entry ms k

theorem map_entry_readSort (ks : List SortKey) :
    (readSort (renderSort ks)).map SortKey.entry = renderSort ks := by
  obtain ⟨ms, hms⟩ := exists_renderSort_eq ks
  rw [hms, readSort_map_entry]

/-- The document of keys for different fields holds their entries. -/
theorem renderSort_of_nodup (h : (Assoc.keys (ks.map SortKey.entry)).Nodup) :
    renderSort ks = ks.map SortKey.entry := by
  calc renderSort ks
      = (ks.map SortKey.entry).foldl
          (fun (es : Document) e => Assoc.insert es e.1 e.2) [] := by rw [List.foldl_map]; rfl
    _ = [] ++ ks.map SortKey.entry := Assoc.foldl_insert_of_nodup h

/-- The keys read back have the document from which they are read. -/
theorem renderSort_readSort (ks : List SortKey) :
    renderSort (readSort (renderSort ks)) = renderSort ks := by
  have hm := map_entry_readSort ks
  have hk := nodup_keys_renderSort ks
  rw [← hm] at hk
  rw [renderSort_of_nodup hk, hm]

/-- Which fields are decisive is told by the document. -/
theorem map_field_decisive (ks : List SortKey) :
    (decisive ks).map SortKey.field = uncovered id (renderSort ks).keys := by
  rw [decisive, map_uncovered]
  induction ks using List.reverseRecOn with
  | nil => rfl
  | append_singleton ks k ih =>
    rw [List.map_append, List.map_singleton, uncovered_concat, ih, renderSort_concat,
      Assoc.keys_insert]
    split <;> rename_i h
    · obtain ⟨b, hb, hbk⟩ :
          ∃ b ∈ uncovered id (renderSort ks).keys, Path.covers b k.field = true :=
        exists_covers_of_mem h
      rcases addUncovered_cases id (uncovered id (renderSort ks).keys) k.field with
        ⟨-, hadd⟩ | ⟨hc, -⟩
      · exact hadd
      · exact absurd hbk (by simpa using hc b hb)
    · rw [uncovered_concat]

/-- A key that is read back has its direction from the document. -/
theorem get?_of_mem_readSort (h : k ∈ readSort (renderSort ks)) :
    (renderSort ks).get? k.field = some (.int32 k.direction) := by
  have he : k.entry ∈ renderSort ks := by
    rw [← map_entry_readSort]
    exact List.mem_map_of_mem h
  exact Assoc.get?_of_mem (nodup_keys_renderSort ks) he

theorem eq_of_direction_eq (hf : k.field = l.field) (hd : k.direction = l.direction) : k = l := by
  cases k <;> cases l <;> cases hf <;> first | rfl | cases hd

theorem decisive_readSort_iff (ks : List SortKey) :
    decisive (readSort (renderSort ks)) = decisive ks ↔
      ∀ k ∈ decisive ks, (renderSort ks).get? k.field = some (.int32 k.direction) := by
  constructor
  · intro h k hk
    rw [← h] at hk
    exact get?_of_mem_readSort (mem_of_mem_uncovered hk)
  · intro h
    refine eq_of_map_eq (f := SortKey.field) ?_ fun m hm k hk hmk => ?_
    · rw [map_field_decisive, map_field_decisive, renderSort_readSort]
    · have hd := get?_of_mem_readSort (mem_of_mem_uncovered hm)
      rw [hmk, h k hk] at hd
      injection hd with hd
      injection hd with hd
      exact eq_of_direction_eq hmk hd.symm

/-- Lists with one document sort alike exactly if their decisive keys are the same. -/
theorem sortByKeys_eq_iff_decisive (h : renderSort ks = renderSort ls) :
    (∀ docs, sortByKeys ks docs = sortByKeys ls docs) ↔ decisive ks = decisive ls := by
  rw [sortByKeys_eq_iff, orderBy_eq_iff_decisive]
  rw [map_field_decisive, map_field_decisive, h]

/-- The key for the same field in the other direction. -/
def SortKey.turned : SortKey → SortKey
  | .ascending f => .descending f
  | .descending f => .ascending f

theorem SortKey.turned_ne (k : SortKey) : k.turned ≠ k := by
  cases k <;> intro h <;> cases h

/-- A key in front of which its turned key is put keeps its entry and does not decide any more. -/
theorem renderSort_turned_cons (k : SortKey) (ks : List SortKey) :
    renderSort (k.turned :: k :: ks) = renderSort (k :: ks) := by
  cases k <;> simp [renderSort, SortKey.turned, SortKey.field, Assoc.insert]

theorem decisive_turned_cons_ne (k : SortKey) (ks : List SortKey) :
    decisive (k.turned :: k :: ks) ≠ decisive (k :: ks) := by
  intro h
  obtain ⟨rest, hr⟩ := exists_uncovered_cons_eq SortKey.field k.turned (k :: ks)
  obtain ⟨rest', hr'⟩ := exists_uncovered_cons_eq SortKey.field k ks
  rw [decisive, decisive, hr, hr'] at h
  exact k.turned_ne (List.cons.inj h).1

/-! ## Stages -/

namespace Stage

/-- Two stages make the same of all documents. -/
def Alike (s t : Stage) : Prop :=
  ∀ shuffle docs, s.run shuffle docs = t.run shuffle docs

theorem alike_sort_iff :
    (sort ks).Alike (sort ls) ↔ ∀ docs, sortByKeys ks docs = sortByKeys ls docs := by
  refine ⟨fun h docs => ?_, fun h _ docs => congrArg Except.ok (h docs)⟩
  exact Except.ok.inj (h .still docs)

theorem renderSort_eq_of_render (h : (sort ks).render = (sort ls).render) :
    renderSort ks = renderSort ls := by
  have h := Except.ok.inj h
  injection h with h
  injection h with _ h
  injection h

/-- **What a sort document means.** The keys read back from it sort as the list does exactly if it
gives the fields of the decisive keys their own directions, and so it does if no field comes twice.
Lists with one document sort alike exactly if their decisive keys are the same. Only the empty list
is the only one of its document. -/
theorem sort_read_iff (ks : List SortKey) :
    ∃ es, (sort ks).render = .ok (Document.single "$sort" (.document es)) ∧
      ((sort (readSort es)).Alike (sort ks) ↔
        ∀ k ∈ decisive ks, Assoc.get? es k.field = some (.int32 k.direction)) ∧
      ((ks.map SortKey.field).Nodup → (sort (readSort es)).Alike (sort ks)) ∧
      (∀ ls, (sort ls).render = (sort ks).render →
        ((sort ls).Alike (sort ks) ↔ decisive ls = decisive ks)) ∧
      (ks = [] ∨ ∃ ls, (sort ls).render = (sort ks).render ∧ ¬ (sort ls).Alike (sort ks)) := by
  refine ⟨renderSort ks, rfl, ?_, fun hk => ?_, fun ls h => ?_, ?_⟩
  · rw [alike_sort_iff, sortByKeys_eq_iff_decisive (renderSort_readSort ks),
      decisive_readSort_iff]
  · have hk : (Assoc.keys (ks.map SortKey.entry)).Nodup := by
      rwa [Assoc.keys, List.map_map]
    rw [renderSort_of_nodup hk, readSort_map_entry]
    exact fun _ _ => rfl
  · rw [alike_sort_iff, sortByKeys_eq_iff_decisive (renderSort_eq_of_render h)]
  · cases ks with
    | nil => exact .inl rfl
    | cons k ks =>
      have hr := renderSort_turned_cons k ks
      refine .inr ⟨k.turned :: k :: ks, congrArg (fun es => Except.ok (Document.single "$sort"
        (.document es))) hr, ?_⟩
      rw [alike_sort_iff, sortByKeys_eq_iff_decisive hr]
      exact decisive_turned_cons_ne k ks

/-- A field that comes in both directions does no harm behind the field that holds it. -/
theorem sort_read_iff_of_covered :
    let ks : List SortKey := [.ascending "address", .ascending "address.city",
      .descending "name", .descending "address.city"]
    let ls : List SortKey := [.ascending "address", .descending "address.city",
      .descending "name"]
    (sort ls).render = (sort ks).render ∧ (sort ls).Alike (sort ks) ∧
      (ls.map SortKey.field).Nodup := by
  intro ks ls
  obtain ⟨-, -, -, -, h, -⟩ := sort_read_iff ks
  have hr : (sort ls).render = (sort ks).render := rfl
  exact ⟨hr, (h ls hr).2 (by decide), by decide⟩

/-- Sorting up and then down by one field has the document of sorting down, and sorts up. -/
theorem sort_not_read_back :
    let both : List SortKey := [.ascending "age", .descending "age"]
    let down : List SortKey := [.descending "age"]
    let young := Document.single "age" (.int32 1)
    let old := Document.single "age" (.int32 2)
    (sort both).render = (sort down).render ∧
      readSort (renderSort both) = down ∧
      (sort both).run .still [old, young] = .ok [young, old] ∧
      (sort down).run .still [old, young] = .ok [old, young] ∧
      ¬ ∀ ks ls : List SortKey, (sort ks).render = (sort ls).render →
        (sort ks).Alike (sort ls) := by
  intro both down young old
  have hboth : (sort both).run .still [old, young] = .ok [young, old] := rfl
  have hdown : (sort down).run .still [old, young] = .ok [old, young] := rfl
  refine ⟨rfl, rfl, hboth, hdown, fun h => ?_⟩
  have hrun := h both down rfl .still [old, young]
  rw [hboth, hdown] at hrun
  simp [young, old, Document.single] at hrun

end Stage

end DocumentDb
