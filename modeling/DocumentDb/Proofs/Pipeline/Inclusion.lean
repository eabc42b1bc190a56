import DocumentDb.Proofs.Pipeline.AddFields

/-!
# Projections that keep fields

A projection that keeps or computes fields builds a new document. It starts from the identifier,
unless that is dropped, and puts one field after the other at its path, with what the document that
came in has for it.

**What a field finds** (`Fragment.found`). The value at its path if the field is kept, and the value
of its expression if it is computed. A value may be missing, and then nothing is put.

**Inclusions** (`Inclusion`). Lists of fragments that do not drop everything and drop nothing but
the identifier, with paths of which none begins with another one or with an identifier that stays.

**Theorem (`project_holds_named`).** An inclusion leads at the path of each field to what the field
finds in the document that came in, and to nothing beside them and the identifier.

The fields are put through documents only, since the new document has none but documents above the
paths. That is the invariant of the run: each path of a field to come leads to nothing so far, and
through no array.
-/

namespace DocumentDb

namespace Fragment

/-- What a field of a projection finds in the document that came in; nothing if it is dropped. -/
def found (d : Document) (f : Fragment) : Except Error (Option Value) :=
  match f.value with
  | .kept => .ok (d.lookup f.name)
  | .dropped => .ok none
  | .computed e => e.evaluate d

theorem found_of_isDropped {f : Fragment} (h : f.value.isDropped = true) (d : Document) :
    f.found d = .ok none := by
  rw [found]
  cases hv : f.value <;> simp_all [FragmentValue.isDropped]

end Fragment

variable {fs : List Fragment} {d into : Document}

/-! ## The run -/

theorem keepFields_cons (d into : Document) (f : Fragment) (fs : List Fragment) :
    keepFields d into (f :: fs) = (do keepFields d (into.update f.name (← f.found d)) fs) := by
  obtain ⟨name, value⟩ := f
  rw [keepFields]
  cases value <;> exact bind_congr fun v => by cases v <;> rfl

/-- The new document has nothing at the paths of the fields to come, and no array on the way. -/
structure Vacant (fs : List Fragment) (into : Document) : Prop where
  lookup : ∀ f ∈ fs, into.lookup f.name = none
  throughNoArray : ∀ f ∈ fs, into.ThroughNoArray (Path.segments f.name)

theorem vacant_nil (fs : List Fragment) : Vacant fs [] where
  lookup f _ := Document.lookup_nil f.name
  throughNoArray f _ := Document.throughNoArray_nil (Path.segments f.name)

/-- A field that is put leaves the paths of the others vacant. -/
theorem Vacant.update {f : Fragment} (h : Vacant (f :: fs) into)
    (hu : ∀ g ∈ fs, Path.Unrelated f.name g.name) (v : Option Value) :
    Vacant fs (into.update f.name v) where
  lookup g hg := by
    have hf := h.throughNoArray f List.mem_cons_self
    rw [Document.lookup_update_of_unrelated (hu g hg) hf, h.lookup g (List.mem_cons_of_mem f hg)]
  throughNoArray g hg :=
    (h.throughNoArray g (List.mem_cons_of_mem f hg)).update (hu g hg) v

/-- The whole run: each field is there with what it finds, and beside the fields nothing changes. -/
theorem exists_keepFields_eq (h : Vacant fs into)
    (hu : fs.Pairwise fun f g => Path.Unrelated f.name g.name)
    (hok : ∀ f ∈ fs, ∃ v, f.found d = .ok v) :
    ∃ out, keepFields d into fs = .ok out ∧
      (∀ f ∈ fs, f.found d = .ok (out.lookup f.name)) ∧
      ∀ path, (∀ f ∈ fs, Path.Unrelated f.name path) → out.lookup path = into.lookup path := by
  induction fs generalizing into with
  | nil => exact ⟨into, rfl, by simp, fun _ _ => rfl⟩
  | cons f fs ih =>
    rw [List.pairwise_cons] at hu
    rw [List.forall_mem_cons] at hok
    obtain ⟨v, hv⟩ := hok.1
    obtain ⟨out, hout, hfound, hrest⟩ := ih (h.update hu.1 v) hu.2 hok.2
    have hf := h.throughNoArray f List.mem_cons_self
    refine ⟨out, ?_, List.forall_mem_cons.2 ⟨?_, hfound⟩, fun path hp => ?_⟩
    · rw [keepFields_cons, hv]
      exact hout
    · -- The fields behind it are put beside its path.
      have hself : out.lookup f.name = v := by
        rw [hrest f.name fun g hg => (hu.1 g hg).symm, Document.lookup_update,
          h.lookup f List.mem_cons_self, Option.or_none]
      rw [hv, hself]
    · rw [List.forall_mem_cons] at hp
      rw [hrest path hp.2, Document.lookup_update_of_unrelated hp.1 hf]

/-! ## The identifier -/

theorem segments_idKey : Path.segments idKey = [idKey] := rfl

/-- A path apart from the identifier begins with another segment. -/
theorem exists_segments_of_unrelated_idKey {path : String} (h : Path.Unrelated idKey path) :
    ∃ s ss, Path.segments path = s :: ss ∧ s ≠ idKey := by
  obtain ⟨s, ss, hs⟩ := Path.exists_segments_eq_cons path
  rw [Path.Unrelated, segments_idKey, hs, Path.apart_cons_cons] at h
  exact ⟨s, ss, hs, (h.resolve_right (Path.not_nil_apart ss)).symm⟩

theorem lookup_idKey (d : Document) : d.lookup idKey = d.get? idKey := by
  rw [Document.lookup, segments_idKey, Document.resolve]
  cases d.get? idKey <;> rfl

theorem get?_projectedId_of_ne {s : String} (h : s ≠ idKey) (fs : List Fragment) (d : Document) :
    (projectedId fs d).get? s = none := by
  fun_cases projectedId fs d with
  | case1 | case3 => rfl
  | case2 _ v =>
    rw [Document.single, Assoc.get?, if_neg h.symm]
    rfl

theorem lookup_projectedId_of_unrelated {path : String} (h : Path.Unrelated idKey path) :
    (projectedId fs d).lookup path = none := by
  obtain ⟨s, ss, hs, hne⟩ := exists_segments_of_unrelated_idKey h
  rw [Document.lookup, hs, Document.resolve, get?_projectedId_of_ne hne, Option.bind_none]

theorem throughNoArray_projectedId {path : String} (h : Path.Unrelated idKey path) :
    (projectedId fs d).ThroughNoArray (Path.segments path) := by
  obtain ⟨s, ss, hs, hne⟩ := exists_segments_of_unrelated_idKey h
  have hnone := get?_projectedId_of_ne hne fs d
  rw [hs]
  cases ss with
  | nil => exact Document.throughNoArray_singleton _ s
  | cons t ss =>
    rw [Document.throughNoArray_cons_cons, Document.documentAt, hnone]
    exact ⟨fun items => by simp, Document.throughNoArray_nil _⟩

/-! ## Inclusions -/

/-- Some fragment drops the identifier. -/
def DropsId (fs : List Fragment) : Prop :=
  ∃ f ∈ fs, f.name = idKey ∧ f.value.isDropped = true

instance (fs : List Fragment) : Decidable (DropsId fs) :=
  inferInstanceAs (Decidable (∃ f ∈ fs, _))

/-- Not everything is dropped, and nothing but the identifier; no path begins with another one, or
with the identifier if that stays; and all expressions can be evaluated on the document. -/
structure Inclusion (fs : List Fragment) (d : Document) : Prop where
  keeps : ∃ f ∈ fs, f.value.isDropped = false
  drops : ∀ f ∈ fs, f.value.isDropped = true → f.name = idKey
  unrelated : fs.Pairwise fun f g => Path.Unrelated f.name g.name
  beside_id : ¬ DropsId fs → ∀ f ∈ fs, Path.Unrelated idKey f.name
  evaluates : ∀ f ∈ fs, ∀ e, f.value = .computed e → ∃ v, e.evaluate d = .ok v

theorem projectedId_of_dropsId (h : DropsId fs) (d : Document) : projectedId fs d = [] := by
  rw [projectedId, if_pos]
  simpa [DropsId, List.any_eq_true] using h

theorem get?_projectedId (h : ¬ DropsId fs) (d : Document) :
    (projectedId fs d).get? idKey = d.get? idKey := by
  rw [projectedId, if_neg (by simpa [DropsId, List.any_eq_true] using h)]
  cases hv : d.get? idKey with
  | none => rfl
  | some v => exact if_pos rfl

namespace Inclusion

theorem found_eq_ok (h : Inclusion fs d) {f : Fragment} (hf : f ∈ fs) :
    ∃ v, f.found d = .ok v := by
  rw [Fragment.found]
  cases hv : f.value with
  | kept | dropped => exact ⟨_, rfl⟩
  | computed e => exact h.evaluates f hf e hv

theorem vacant_projectedId (h : Inclusion fs d) : Vacant fs (projectedId fs d) := by
  by_cases hd : DropsId fs
  · rw [projectedId_of_dropsId hd]
    exact vacant_nil fs
  · exact ⟨fun f hf => lookup_projectedId_of_unrelated (h.beside_id hd f hf),
      fun f hf => throughNoArray_projectedId (h.beside_id hd f hf)⟩

theorem project_eq (h : Inclusion fs d) :
    project fs d = keepFields d (projectedId fs d) fs := by
  obtain ⟨f, hf, hk⟩ := h.keeps
  have hall : ¬ fs.all (·.value.isDropped) = true := fun hall => by
    rw [List.all_eq_true.1 hall f hf] at hk
    cases hk
  have hfind : fs.find? (fun f => f.name != idKey && f.value.isDropped) = none := by
    rw [List.find?_eq_none]
    intro g hg hd
    rw [Bool.and_eq_true, bne_iff_ne] at hd
    exact hd.1 (h.drops g hg hd.2)
  rw [project, if_neg hall, hfind]

end Inclusion

/-! ## Main result -/

/-- **An inclusion holds what it names.** It leads to what the document that came in has at the path
of every field that is kept, and to the value of the expression at the path of every field that is
computed. The identifier is that of the document unless it is dropped, and no other path leads
anywhere. -/
theorem project_holds_named (h : Inclusion fs d) :
    ∃ out, project fs d = .ok out ∧
      (∀ f ∈ fs, f.value = .kept → out.lookup f.name = d.lookup f.name) ∧
      (∀ f ∈ fs, ∀ e, f.value = .computed e → e.evaluate d = .ok (out.lookup f.name)) ∧
      out.get? idKey = (if DropsId fs then none else d.get? idKey) ∧
      ∀ path, Path.Unrelated idKey path → (∀ f ∈ fs, Path.Unrelated f.name path) →
        out.lookup path = none := by
  obtain ⟨out, hout, hfound, hrest⟩ :=
    exists_keepFields_eq h.vacant_projectedId h.unrelated fun f hf => h.found_eq_ok hf
  refine ⟨out, h.project_eq.trans hout, fun f hf hv => ?_, fun f hf e hv => ?_, ?_,
    fun path hid hp => ?_⟩
  · have := hfound f hf
    rw [Fragment.found, hv] at this
    exact (Except.ok.inj this).symm
  · have := hfound f hf
    rwa [Fragment.found, hv] at this
  · split
    · next hd =>
      -- The identifier is the path of the fragment that drops it, which finds nothing.
      obtain ⟨f, hf, hname, hdrop⟩ := hd
      have := hfound f hf
      rw [Fragment.found_of_isDropped hdrop, hname, lookup_idKey] at this
      exact (Except.ok.inj this).symm
    · next hd =>
      rw [← lookup_idKey, hrest idKey fun f hf => (h.beside_id hd f hf).symm, lookup_idKey,
        get?_projectedId hd]
  · rw [hrest path hp, lookup_projectedId_of_unrelated hid]

/-- Of a person without its identifier: an entry of an item of an array, an item that is not there,
and two fields in one document, of which one is computed. -/
theorem project_holds_named_of_person :
    let d : Document := [("_id", .string "p"), ("name", .document [("first", .string "A")]),
      ("tags", .array [.string "x", .document [("k", .int32 1)]]), ("age", .int32 30)]
    let fs : List Fragment := [⟨"tags.1.k", .kept⟩, ⟨"tags.2", .kept⟩,
      .compute "name.size" (.operator "$size" (.path "tags")), ⟨"name.first", .kept⟩,
      ⟨"_id", .dropped⟩]
    Inclusion fs d ∧ ∃ out, project fs d = .ok out ∧
      out.lookup "tags.1.k" = some (.int32 1) ∧ out.lookup "tags.2" = none ∧
      out.lookup "name.size" = some (.int32 2) ∧ out.lookup "name.first" = some (.string "A") ∧
      out.get? idKey = none ∧ out.lookup "age" = none := by
  intro d fs
  have h : Inclusion fs d :=
    { keeps := ⟨_, List.mem_cons_self, rfl⟩
      drops := by decide
      unrelated := by decide
      beside_id := fun hn => absurd (by decide) hn
      evaluates := by
        simp only [fs, List.forall_mem_cons]
        refine ⟨?_, ?_, ?_, ?_, ?_, by simp⟩ <;> intro e he <;> cases he
        exact ⟨some (.int32 2), rfl⟩ }
  obtain ⟨out, hout, hkept, hcomputed, hid, hrest⟩ := project_holds_named h
  refine ⟨h, out, hout, ?_, ?_, ?_, ?_, hid.trans (if_pos (by decide)),
    hrest "age" (by decide) (by decide)⟩
  · exact hkept ⟨"tags.1.k", .kept⟩ (by simp [fs]) rfl
  · exact hkept ⟨"tags.2", .kept⟩ (by simp [fs]) rfl
  · exact (Except.ok.inj (hcomputed (.compute "name.size" (.operator "$size" (.path "tags")))
      (by simp [fs]) _ rfl)).symm
  · exact hkept ⟨"name.first", .kept⟩ (by simp [fs]) rfl

end DocumentDb
