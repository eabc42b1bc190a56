import DocumentDb.Memory.Store
import DocumentDb.Proofs.Expression.Arithmetic
import DocumentDb.Proofs.Filter.Boolean
import Mathlib.Algebra.BigOperators.Fin
import Mathlib.Data.List.Indexes

/-!
# Counting documents

There are three ways to count the documents that a filter means. One takes the length of what is
found, one makes a value of that length, and one adds a one for each document to a short zero. The
sum goes over to the long width on the way, and so does the value of a length, after just as many
documents (`Value.sum_replicate_one`).

**Groups.** A document is a member of exactly one group, the one that is its home, so the sizes of
the groups add up to the number of documents (`Partition.sum_length_members`).

**Theorem (`countings_agree`).** All ways give the same number, as the same value.
-/

namespace DocumentDb

/-! ## Counts as values -/

namespace Value

/-- A value is the count of so many things: the integer, in the short width if it fits there. -/
structure Counts (v : Value) (n : Nat) : Prop where
  number : v.integer? = some (n : Int)
  short_iff : (∃ k, v = int32 k) ↔ n < 2 ^ 31

variable {v w : Value} {n : Nat}

theorem counts_ofCount (h : n < 2 ^ 63) : (ofCount n).Counts n := by
  rw [ofCount]
  split
  · next hn =>
    have hn' : n < 2 ^ 31 := hn
    refine ⟨?_, fun _ => hn, fun _ => ⟨_, rfl⟩⟩
    rw [← Int32.ofInt_eq_ofNat]
    exact congrArg some (Int32.toInt_ofInt_of_le (by omega) (by omega))
  · next hn =>
    refine ⟨?_, ?_, fun h => absurd h hn⟩
    · rw [← Int64.ofInt_eq_ofNat]
      exact congrArg some (Int64.toInt_ofInt_of_le (by omega) (by omega))
    · rintro ⟨k, hk⟩
      cases hk

/-- There is one count of so many things. -/
theorem Counts.eq (hv : v.Counts n) (hw : w.Counts n) : v = w := by
  have hshort := hv.short_iff.trans hw.short_iff.symm
  have hnumber := hv.number.trans hw.number.symm
  cases v with
  | int32 k =>
    obtain ⟨l, rfl⟩ := hshort.1 ⟨k, rfl⟩
    exact congrArg int32 (Int32.toInt_inj.1 (Option.some.inj hnumber))
  | int64 k =>
    cases w with
    | int32 l =>
      obtain ⟨k', hk⟩ := hshort.2 ⟨l, rfl⟩
      cases hk
    | int64 l => exact congrArg int64 (Int64.toInt_inj.1 (Option.some.inj hnumber))
    | _ => cases hw.number
  | _ => cases hv.number

/-- So many ones come to the count. -/
theorem sum_replicate_one (h : n < 2 ^ 63) :
    sum (List.replicate n (int32 1)) = ofCount n := by
  have hones : List.Forall₂ (fun v m => v.integer? = some m) (List.replicate n (int32 1))
      (List.replicate n (1 : Int)) := by
    rw [List.forall₂_iff_zip]
    refine ⟨by simp, fun {v m} hvm => ?_⟩
    obtain ⟨hv, hm⟩ := List.of_mem_zip hvm
    rw [List.eq_of_mem_replicate hv, List.eq_of_mem_replicate hm]
    rfl
  -- The partial sums are the numbers up to the count.
  have hpartial (ms) (hms : ms ∈ (List.replicate n (1 : Int)).inits) :
      0 ≤ ms.sum ∧ ms.sum ≤ n := by
    obtain ⟨hle, hms⟩ := List.prefix_replicate_iff.1 ((List.mem_inits _ _).1 hms)
    rw [hms, List.sum_replicate, nsmul_one]
    omega
  have hsum := calculated_sum hones
  have hinteger := hsum.integer fun ms hms => by
    have := hpartial ms hms
    rw [fits_64_iff]
    omega
  rw [List.sum_replicate, nsmul_one] at hinteger
  refine Counts.eq ⟨hinteger, ?_⟩ (counts_ofCount h)
  rw [hsum.short_iff]
  constructor
  · rintro ⟨-, hfit⟩
    have := hfit _ ((List.mem_inits _ _).2 (List.prefix_refl _))
    rw [List.sum_replicate, nsmul_one, fits_32_iff] at this
    omega
  · intro hn
    refine ⟨fun v hv => ⟨1, List.eq_of_mem_replicate hv⟩, fun ms hms => ?_⟩
    have := hpartial ms hms
    rw [fits_32_iff]
    omega

end Value

/-! ## Counts of groups -/

variable {id : Expression} {fields : List GroupField} {ids : List Value} {docs : List Document}
  {key : Value} {field : String}

/-- The field that counts the documents of a group. -/
def GroupField.counting (field : String) : GroupField :=
  ⟨field, "$sum", .literal (.int32 1)⟩

theorem GroupField.finish_gathered_counting (field : String) (h : docs.length < 2 ^ 63) :
    ((counting field).gathered docs).finish = .ofCount docs.length := by
  have hones : docs.map (counting field).argument.valueOn =
      (List.replicate docs.length (Value.int32 1)).map some := by
    rw [List.map_replicate]
    exact List.map_const' ..
  have hgather := Accumulator.gather_valueOn (f := counting field) ⟨_, rfl⟩ docs
  rw [hones, counting, Accumulator.gather_sum fun v hv => by rw [List.eq_of_mem_replicate hv]; rfl,
    Value.sum_replicate_one h] at hgather
  exact (Except.ok.inj hgather).symm

theorem sum_length_members (h : ∀ d ∈ docs, ∃ i, home ids (keyOn id d) = some i) :
    ∑ i : Fin ids.length, (members id ids i docs).length = docs.length := by
  induction docs with
  | nil => simp [members]
  | cons d docs ih =>
    rw [List.forall_mem_cons] at h
    obtain ⟨i, hi⟩ := h.1
    have hlt : i < ids.length := (List.findIdx?_eq_some_iff_getElem.1 hi).1
    have hcons (j : Fin ids.length) : (members id ids j (d :: docs)).length =
        (members id ids j docs).length + if (⟨i, hlt⟩ : Fin ids.length) = j then 1 else 0 := by
      simp only [members, List.filter_cons, hi, Fin.ext_iff]
      by_cases hij : i = j <;> simp [hij]
    simp only [hcons, Finset.sum_add_distrib, ih h.2, Finset.sum_ite_eq, Finset.mem_univ, if_true,
      List.length_cons]

namespace Partition

/-- No document is lost, and none is in two groups. -/
theorem sum_sizes (h : Partition id ids docs) :
    (ids.mapIdx fun i _ => (members id ids i docs).length).sum = docs.length := by
  rw [List.mapIdx_eq_ofFn, List.sum_ofFn]
  exact sum_length_members h.housed

/-- If all documents have one key, there is one group. -/
theorem eq_singleton (h : Partition id ids docs) (hkey : ∀ d ∈ docs, keyOn id d = key)
    (hdocs : docs ≠ []) : ids = [key] := by
  have hids (v) (hv : v ∈ ids) : v = key := by
    obtain ⟨d, hd, rfl⟩ := h.exists_keyOn_eq hv
    exact hkey d hd
  cases ids with
  | nil => exact absurd (h.eq_nil_iff.1 rfl) hdocs
  | cons v rest =>
    obtain rfl := hids v List.mem_cons_self
    have hrest : rest = [] := List.eq_nil_iff_forall_not_mem.2 fun w hw => by
      have hne := (List.pairwise_cons.1 h.unlike).1 w hw
      rw [hids w (List.mem_cons_of_mem _ hw), Value.alike_self] at hne
      cases hne
    rw [hrest]

end Partition

theorem members_singleton (hkey : ∀ d ∈ docs, keyOn id d = key) :
    members id [key] 0 docs = docs := by
  refine List.filter_eq_self.2 fun d hd => ?_
  rw [hkey d hd, home, List.findIdx?_cons, Value.alike_self]
  rfl

/-- Groups that are counted hold all documents. -/
theorem group_count (hfield : field ≠ idKey) (hkeyed : ∀ d ∈ docs, ∃ v, id.evaluate d = .ok v)
    (h : docs.length < 2 ^ 63) :
    ∃ ids, Partition id ids docs ∧ group id [.count field] docs =
      .ok (ids.mapIdx fun i v =>
        [(idKey, v), (field, .ofCount (members id ids i docs).length)]) := by
  have hfree : idKey ∉ [GroupField.counting field].map GroupField.name := by
    simpa [GroupField.counting] using hfield.symm
  have he : Evaluable id [GroupField.counting field] docs :=
    { known := fun f hf => by rw [List.mem_singleton.1 hf]; exact ⟨_, rfl⟩
      keyed := hkeyed
      valued := fun d _ f hf => by rw [List.mem_singleton.1 hf]; exact ⟨_, rfl⟩ }
  obtain ⟨ids, hids, hg⟩ := he.exists_groupsOf_eq
  refine ⟨ids, hids, (group_eq_ok hfree hg).trans (congrArg Except.ok ?_)⟩
  rw [map_document_groupsAt (by simp) hfree]
  refine List.ext_getElem (by simp) fun i h₁ h₂ => ?_
  have hlt : (members id ids i docs).length < 2 ^ 63 :=
    (List.length_filter_le ..).trans_lt h
  simp only [List.getElem_mapIdx, List.map_singleton, GroupField.finish_gathered_counting field hlt]
  rfl

/-- Documents with one key are counted in one group. -/
theorem group_count_of_constant (hfield : field ≠ idKey)
    (hkey : ∀ d, id.evaluate d = .ok (some key)) (h : docs.length < 2 ^ 63) :
    group id [.count field] docs =
      .ok (if docs.length = 0 then [] else
        [[(idKey, key), (field, .ofCount docs.length)]]) := by
  have hkeyOn (d) (_ : d ∈ docs) : keyOn id d = key := by
    rw [keyOn, Expression.valueOn, hkey, Option.getD_some]
  obtain ⟨ids, hids, hg⟩ := group_count hfield (fun d _ => ⟨_, hkey d⟩) h
  rw [hg]
  split
  · next hlen =>
    rw [List.length_eq_zero_iff] at hlen
    rw [hids.eq_nil_iff.2 hlen, List.mapIdx_nil]
  · next hlen =>
    rw [List.length_eq_zero_iff] at hlen
    rw [hids.eq_singleton hkeyOn hlen, List.mapIdx_singleton, members_singleton hkeyOn]

/-! ## Main result -/

/-- A pipeline runs its last stage on what the stages before it give. -/
theorem Pipeline.run_push (shuffle : Shuffle) (p : Pipeline) (stage : Stage)
    (docs : List Document) :
    (p.push stage).run shuffle docs =
      p.run shuffle docs >>= fun docs => stage.run shuffle docs := by
  simp only [run, push, List.foldlM_append, List.foldlM_cons, List.foldlM_nil, bind_pure]

namespace Memory.Store

variable {f : Filter} {s : Store} {name : String}

theorem aggregate_filter_push (h : s.findDocuments name (some f) = .ok docs) (stage : Stage) :
    s.aggregate name ((Pipeline.empty.filter f).push stage) = stage.run s.shuffle docs := by
  have hselect : (Stage.filter f).run s.shuffle (s.documents name) = .ok docs := h
  rw [aggregate, Pipeline.run_push, Pipeline.filter, Pipeline.run_push]
  show ((Stage.filter f).run s.shuffle (s.documents name) >>= _) = _
  rw [hselect]
  rfl

/-- **All ways of counting agree.** A filter that has a query document finds some documents and
counts as many. The pipelines that count what it means, by a stage or in one group, give no document
if there are none, and otherwise one with that count under the name asked for, as the same value. In
groups by any expression that can be evaluated, the counts add up to it. -/
theorem countings_agree (hf : f.Renders) (s : Store) (name : String) (hfield : field ≠ idKey) :
    ∃ docs, s.findDocuments name (some f) = .ok docs ∧
      s.countDocuments name (some f) = .ok docs.length ∧
      -- Lists in memory are always that short.
      (docs.length < 2 ^ 63 → ∃ v : Value, v.Counts docs.length ∧
        s.aggregate name ((Pipeline.empty.filter f).count field) =
          .ok (if docs.length = 0 then [] else [[(field, v)]]) ∧
        s.aggregate name ((Pipeline.empty.filter f).group (.literal .null) [.count field]) =
          .ok (if docs.length = 0 then [] else [[(idKey, .null), (field, v)]]) ∧
        ∀ id : Expression, (∀ d ∈ docs, ∃ v, id.evaluate d = .ok v) →
          ∃ out counts, s.aggregate name ((Pipeline.empty.filter f).group id [.count field]) =
              .ok out ∧
            List.Forall₂ (fun (d : Document) n => ∃ v, d.get? field = some v ∧ v.Counts n)
              out counts ∧
            counts.sum = docs.length) := by
  obtain ⟨docs, hfind⟩ : ∃ docs, s.findDocuments name (some f) = .ok docs :=
    ⟨_, Filter.select_of_renders hf _⟩
  refine ⟨docs, hfind, by rw [countDocuments, hfind]; rfl, fun h => ?_⟩
  refine ⟨.ofCount docs.length, Value.counts_ofCount h, ?_, ?_, fun id hid => ?_⟩
  · rw [Pipeline.count, aggregate_filter_push hfind, Stage.run, DocumentDb.countDocuments]
    simp only [List.isEmpty_iff_length_eq_zero]
    rfl
  · rw [Pipeline.group, aggregate_filter_push hfind]
    exact group_count_of_constant hfield (fun _ => rfl) h
  · obtain ⟨ids, hids, hg⟩ := group_count hfield hid h
    refine ⟨ids.mapIdx fun i v => [(idKey, v), (field, .ofCount (members id ids i docs).length)],
      ids.mapIdx fun i _ => (members id ids i docs).length, ?_, ?_, hids.sum_sizes⟩
    · rw [Pipeline.group, aggregate_filter_push hfind]
      exact hg
    · refine List.forall₂_iff_get.2 ⟨by simp, fun i h₁ h₂ => ?_⟩
      simp only [List.get_eq_getElem, List.getElem_mapIdx]
      refine ⟨_, ?_, Value.counts_ofCount ((List.length_filter_le ..).trans_lt h)⟩
      rw [Assoc.get?, if_neg hfield.symm, Assoc.get?, if_pos rfl]

/-- Two of three people are adults, in two teams. -/
theorem countings_agree_on_adults :
    let f : Filter := .compare "age" .gte (.int32 18)
    let s : Store := { collections := [("people", { documents :=
      [[("_id", .string "a"), ("age", .int32 20), ("team", .string "red")],
        [("_id", .string "b"), ("age", .int32 17), ("team", .string "red")],
        [("_id", .string "c"), ("age", .int64 40)]] })] }
    f.Renders ∧ "n" ≠ idKey ∧ s.countDocuments "people" (some f) = .ok 2 ∧
      s.aggregate "people" ((Pipeline.empty.filter f).count "n") = .ok [[("n", .int32 2)]] ∧
      ∃ (out : List Document) (counts : List Nat),
        s.aggregate "people" ((Pipeline.empty.filter f).group (.path "team") [.count "n"]) =
          .ok out ∧ out.length = counts.length ∧ counts.sum = 2 := by
  intro f s
  have hf : f.Renders := ⟨_, rfl⟩
  have hn : "n" ≠ idKey := by decide
  obtain ⟨docs, hfind, hcount, hagree⟩ := countings_agree hf s "people" hn
  have hdocs : s.findDocuments "people" (some f) =
      .ok [[("_id", .string "a"), ("age", .int32 20), ("team", .string "red")],
        [("_id", .string "c"), ("age", .int64 40)]] := rfl
  obtain rfl := Except.ok.inj (hfind.symm.trans hdocs)
  obtain ⟨v, hv, hstage, -, hgroups⟩ := hagree (by decide)
  obtain ⟨out, counts, hout, hcounts, hsum⟩ := hgroups (.path "team") fun d _ => ⟨_, rfl⟩
  have hvalue : v = .int32 2 := hv.eq (Value.counts_ofCount (n := 2) (by decide))
  rw [hvalue] at hstage
  exact ⟨hf, hn, hcount, hstage, out, counts, hout, hcounts.length_eq, hsum⟩

end Memory.Store

end DocumentDb
