import DocumentDb.Pipeline.Render
import DocumentDb.Proofs.Result
import Mathlib.Data.List.Induction

/-!
# Merged fragments

Rendering puts the values of fragments into a document one after the other, where a repeated name
keeps its first place and takes its last value. Merging does the same with the fragments themselves.

**Putting** (`putAll`). Projections and computed fields are both loops that give each fragment a
value and put it under the name of the fragment. A value that is put last might as well be put in
the place of an earlier one under its name (`putAll_placeFragment`).

**Theorem (`merging_keeps_rendering`).** A stage with merged fragments renders to the same document
as the stage with the fragments as they were given. The merged names are the given ones in the order
of their first occurrence, each with the last fragment that was given for it, and merging part of
the fragments beforehand makes no difference.
-/

namespace DocumentDb

variable {fs gs : List Fragment} {f g : Fragment}

/-! ## What merging gives -/

theorem eraseDups_concat (l : List String) (a : String) :
    (l ++ [a]).eraseDups = if a ∈ l then l.eraseDups else l.eraseDups ++ [a] := by
  rw [List.eraseDups_append]
  split
  · next h => simp [List.removeAll, h]
  · next h => simp [List.removeAll, h, List.eraseDups_cons]

theorem mergeFragments_concat (fs : List Fragment) (f : Fragment) :
    mergeFragments (fs ++ [f]) = placeFragment (mergeFragments fs) f := by
  rw [mergeFragments, List.foldl_append]
  rfl

theorem placeFragment_of_not_mem (h : f.name ∉ gs.map Fragment.name) :
    placeFragment gs f = gs ++ [f] := by
  induction gs with
  | nil => rfl
  | cons g gs ih =>
    rw [List.map_cons, List.mem_cons, not_or] at h
    rw [placeFragment, if_neg (Ne.symm h.1), ih h.2, List.cons_append]

/-- The names stay as they are if the new one is among them. -/
theorem map_name_placeFragment (gs : List Fragment) (f : Fragment) :
    (placeFragment gs f).map Fragment.name =
      if f.name ∈ gs.map Fragment.name then gs.map Fragment.name
      else gs.map Fragment.name ++ [f.name] := by
  induction gs with
  | nil => rfl
  | cons g gs ih =>
    rw [placeFragment]
    split
    · next h => simp [h]
    · next h =>
      have hne : f.name ≠ g.name := Ne.symm h
      rw [List.map_cons, ih]
      simp only [List.map_cons, List.mem_cons, hne, false_or]
      split <;> rfl

theorem nodup_placeFragment (h : (gs.map Fragment.name).Nodup) (f : Fragment) :
    ((placeFragment gs f).map Fragment.name).Nodup := by
  rw [map_name_placeFragment]
  split
  · exact h
  · next hf => exact List.nodup_append.2 ⟨h, by simp, by grind⟩

/-- Among different names, the new fragment takes the place of the one with its name. -/
theorem mem_placeFragment_iff (h : (gs.map Fragment.name).Nodup) :
    g ∈ placeFragment gs f ↔ g = f ∨ g ∈ gs ∧ g.name ≠ f.name := by
  induction gs with
  | nil => simp [placeFragment]
  | cons g' gs ih =>
    obtain ⟨hg', hgs⟩ := List.nodup_cons.1 h
    rw [placeFragment]
    split
    · next hname =>
      have hrest (hg : g ∈ gs) : g.name ≠ f.name := fun he =>
        hg' (hname.trans he.symm ▸ List.mem_map_of_mem hg)
      have hf : (⟨g'.name, f.value⟩ : Fragment) = f := by rw [hname]
      rw [hf, List.mem_cons, List.mem_cons]
      grind
    · next hname =>
      rw [List.mem_cons, List.mem_cons, ih hgs]
      grind

theorem nodup_mergeFragments (fs : List Fragment) :
    ((mergeFragments fs).map Fragment.name).Nodup := by
  induction fs using List.reverseRecOn with
  | nil => exact .nil
  | append_singleton fs f ih =>
    rw [mergeFragments_concat]
    exact nodup_placeFragment ih f

/-- The names of merged fragments are the given ones, each where it first occurs. -/
theorem map_name_mergeFragments (fs : List Fragment) :
    (mergeFragments fs).map Fragment.name = (fs.map Fragment.name).eraseDups := by
  induction fs using List.reverseRecOn with
  | nil => rfl
  | append_singleton fs f ih =>
    rw [mergeFragments_concat, map_name_placeFragment, ih, List.map_append, List.map_singleton,
      eraseDups_concat]
    simp only [List.mem_eraseDups]

/-- A merged fragment is the last one that was given for its name. -/
theorem mem_mergeFragments_iff :
    f ∈ mergeFragments fs ↔ (fs.filter (·.name = f.name)).getLast? = some f := by
  induction fs using List.reverseRecOn with
  | nil => simp [mergeFragments]
  | append_singleton fs f' ih =>
    rw [mergeFragments_concat, mem_placeFragment_iff (nodup_mergeFragments fs), ih,
      List.filter_append, List.getLast?_append]
    by_cases h : f'.name = f.name
    · simp [h, eq_comm]
    · have hne : f.name ≠ f'.name := Ne.symm h
      have hf : f ≠ f' := fun he => hne (congrArg Fragment.name he)
      rw [List.filter_cons_of_neg (by simpa using h), List.filter_nil, List.getLast?_nil,
        Option.none_or, and_iff_left hne, or_iff_right hf]

theorem mergeFragments_of_nodup (h : (fs.map Fragment.name).Nodup) : mergeFragments fs = fs := by
  induction fs using List.reverseRecOn with
  | nil => rfl
  | append_singleton fs f ih =>
    rw [List.map_append, List.nodup_append] at h
    rw [mergeFragments_concat, ih h.1, placeFragment_of_not_mem]
    exact fun hf => h.2.2 _ hf _ List.mem_cons_self rfl

/-- Fragments that were merged beforehand are merged with the others as if they were not. -/
theorem mergeFragments_append (fs gs : List Fragment) :
    mergeFragments (mergeFragments fs ++ gs) = mergeFragments (fs ++ gs) := by
  have hmerged := mergeFragments_of_nodup (nodup_mergeFragments fs)
  simp only [mergeFragments, List.foldl_append] at hmerged ⊢
  rw [hmerged]

/-! ## Putting values under names -/

/-- Puts the values of fragments under their names, one after the other. -/
def putAll (value : Fragment → Except Error Value) (into : Document) :
    List Fragment → Except Error Document
  | [] => .ok into
  | f :: fs => do
    let v ← value f
    putAll value (into.insert f.name v) fs

section

variable {value : Fragment → Except Error Value} {into d r : Document}

theorem putAll_cons_eq_ok_iff :
    putAll value into (f :: fs) = .ok r ↔
      ∃ v, value f = .ok v ∧ putAll value (into.insert f.name v) fs = .ok r := by
  rw [putAll, bind_eq_ok_iff]

theorem putAll_append_eq_ok_iff :
    putAll value into (fs ++ gs) = .ok r ↔
      ∃ d, putAll value into fs = .ok d ∧ putAll value d gs = .ok r := by
  induction fs generalizing into with
  | nil => simp [putAll]
  | cons f fs ih =>
    simp only [List.cons_append, putAll_cons_eq_ok_iff, ih]
    grind

/-- A value under a name that is there already may be put first or last, unless it is put in
between. -/
theorem putAll_insert {k : String} (hk : k ∉ fs.map Fragment.name) (hinto : k ∈ into.keys)
    (h : putAll value into fs = .ok r) (w : Value) :
    putAll value (into.insert k w) fs = .ok (r.insert k w) := by
  induction fs generalizing into with
  | nil =>
    cases h
    rfl
  | cons f fs ih =>
    rw [List.map_cons, List.mem_cons, not_or] at hk
    obtain ⟨v, hv, h⟩ := putAll_cons_eq_ok_iff.1 h
    refine putAll_cons_eq_ok_iff.2 ⟨v, hv, ?_⟩
    rw [Assoc.insert_insert_comm hk.1 hinto]
    exact ih hk.2 (Assoc.mem_keys_insert.2 (.inr hinto)) h

/-- What is put last may be put in the place of what is under its name. -/
theorem putAll_placeFragment (hgs : (gs.map Fragment.name).Nodup)
    (h : putAll value into (gs ++ [f]) = .ok r) :
    putAll value into (placeFragment gs f) = .ok r := by
  induction gs generalizing into with
  | nil => exact h
  | cons g gs ih =>
    obtain ⟨hg, hgs⟩ := List.nodup_cons.1 hgs
    obtain ⟨v, hv, h⟩ := putAll_cons_eq_ok_iff.1 h
    rw [placeFragment]
    split
    · next hname =>
      obtain ⟨d, hd, h⟩ := putAll_append_eq_ok_iff.1 h
      obtain ⟨w, hw, h⟩ := putAll_cons_eq_ok_iff.1 h
      cases h
      have hf : (⟨g.name, f.value⟩ : Fragment) = f := by rw [hname]
      rw [hf]
      refine putAll_cons_eq_ok_iff.2 ⟨w, hw, ?_⟩
      rw [hname] at hg hd
      rw [← Assoc.insert_insert into f.name v w]
      exact putAll_insert hg (Assoc.mem_keys_insert.2 (.inl rfl)) hd w
    · exact putAll_cons_eq_ok_iff.2 ⟨v, hv, ih hgs h⟩

/-- Merged fragments put the same values in the same order. -/
theorem putAll_mergeFragments (h : putAll value into fs = .ok r) :
    putAll value into (mergeFragments fs) = .ok r := by
  induction fs using List.reverseRecOn generalizing r with
  | nil => exact h
  | append_singleton fs f ih =>
    obtain ⟨d, hd, hf⟩ := putAll_append_eq_ok_iff.1 h
    rw [mergeFragments_concat]
    exact putAll_placeFragment (nodup_mergeFragments fs)
      (putAll_append_eq_ok_iff.2 ⟨d, ih hd, hf⟩)

end

/-! ## Stages -/

theorem renderProjection_eq_putAll (into : Document) (fs : List Fragment) :
    renderProjection into fs = putAll (fun f => f.value.renderProjected) into fs := by
  induction fs generalizing into with
  | nil => rfl
  | cons f fs ih => simp only [renderProjection, putAll, ih]

/-- The value of a fragment in a stage that takes computed fragments only. -/
def Fragment.renderComputed (stage : String) (f : Fragment) : Except Error Value :=
  match f.value with
  | .computed e => e.render
  | _ => .error (OperandFault.notComputed f.name stage).error

theorem renderComputed_eq_putAll (stage : String) (into : Document) (fs : List Fragment) :
    renderComputed stage into fs = putAll (Fragment.renderComputed stage) into fs := by
  induction fs generalizing into with
  | nil => rfl
  | cons f fs ih =>
    rw [renderComputed, putAll, Fragment.renderComputed]
    cases f.value with
    | computed e => simp only [ih]
    | kept => rfl
    | dropped => rfl

theorem requireGroupNames_mergeFragments (fs : List Fragment) :
    requireGroupNames (mergeFragments fs) = requireGroupNames fs := by
  have hany (gs : List Fragment) : gs.any (·.name == idKey) =
      decide (idKey ∈ gs.map Fragment.name) := by
    rw [Bool.eq_iff_iff]
    simp
  rw [requireGroupNames, requireGroupNames, hany, hany, map_name_mergeFragments]
  simp only [List.mem_eraseDups]

/-- The same stage with merged fragments. -/
def Stage.merged : Stage → Stage
  | project fs => project (mergeFragments fs)
  | group id fs => group id (mergeFragments fs)
  | addFields fs => addFields (mergeFragments fs)
  | s => s

/-- A stage whose fragments are merged is rendered like the stage as it was given. -/
theorem Stage.render_merged {s : Stage} {d : Document} (h : s.render = .ok d) :
    s.merged.render = .ok d := by
  obtain ⟨body, hbody, rfl⟩ := bind_pure_eq_ok_iff.1 h
  suffices hmerged : s.merged.renderBody = .ok body by
    have hop : s.merged.operator = s.operator := by cases s <;> rfl
    rw [render, hmerged, hop]
    rfl
  cases s with
  | project fs =>
    rw [renderBody, renderProjection_eq_putAll] at hbody
    obtain ⟨r, hr, rfl⟩ := bind_pure_eq_ok_iff.1 hbody
    rw [merged, renderBody, renderProjection_eq_putAll, putAll_mergeFragments hr]
    rfl
  | group id fs =>
    simp only [renderBody, renderComputed_eq_putAll, bind_eq_ok_iff] at hbody
    obtain ⟨_, hnames, key, hkey, r, hr, hbody⟩ := hbody
    rw [merged, renderBody, requireGroupNames_mergeFragments, hnames, hkey]
    show (do return Value.document (← renderComputed "$group" _ _)) = _
    rw [renderComputed_eq_putAll, putAll_mergeFragments hr]
    exact hbody
  | addFields fs =>
    rw [renderBody, renderComputed_eq_putAll] at hbody
    obtain ⟨r, hr, rfl⟩ := bind_pure_eq_ok_iff.1 hbody
    rw [merged, renderBody, renderComputed_eq_putAll, putAll_mergeFragments hr]
    rfl
  | _ => exact hbody

theorem Pipeline.render_push_merged {p : Pipeline} {s : Stage} {ds : List Document}
    (h : (p.push s).render = .ok ds) : (p.push s.merged).render = .ok ds := by
  rw [render, push, List.mapM_append, bind_eq_ok_iff] at h ⊢
  obtain ⟨front, hfront, h⟩ := h
  obtain ⟨last, hlast, h⟩ := bind_pure_eq_ok_iff.1 h
  refine ⟨front, hfront, bind_pure_eq_ok_iff.2 ⟨last, ?_, h⟩⟩
  rw [List.mapM_cons, bind_eq_ok_iff] at hlast ⊢
  obtain ⟨d, hd, hlast⟩ := hlast
  exact ⟨d, Stage.render_merged hd, hlast⟩

/-! ## Main result -/

/-- **Merging fragments never changes what is rendered.** Wherever a pipeline can be rendered to
which a stage was added as it is, adding the stage with merged fragments gives a pipeline that is
rendered to the same documents. Merging keeps each name once, in the order of the first
occurrences, with the last fragment that was given for it. To merge some fragments and merge the
result with others is to merge all of them. -/
theorem merging_keeps_rendering (p : Pipeline) (id : Expression) (fs : List Fragment) :
    (∀ ds, (p.push (.project fs)).render = .ok ds → (p.project fs).render = .ok ds) ∧
      (∀ ds, (p.push (.group id fs)).render = .ok ds → (p.group id fs).render = .ok ds) ∧
      (∀ ds, (p.push (.addFields fs)).render = .ok ds → (p.addFields fs).render = .ok ds) ∧
      ((mergeFragments fs).map Fragment.name).Nodup ∧
      (mergeFragments fs).map Fragment.name = (fs.map Fragment.name).eraseDups ∧
      (∀ f, f ∈ mergeFragments fs ↔ (fs.filter (·.name = f.name)).getLast? = some f) ∧
      ∀ gs, mergeFragments (mergeFragments fs ++ gs) = mergeFragments (fs ++ gs) :=
  ⟨fun _ => Pipeline.render_push_merged, fun _ => Pipeline.render_push_merged,
    fun _ => Pipeline.render_push_merged, nodup_mergeFragments fs, map_name_mergeFragments fs,
    fun _ => mem_mergeFragments_iff, mergeFragments_append fs⟩

/-- A name that is kept, given a constant and dropped again, with others in between. -/
theorem merging_keeps_rendering_of_repeated_name :
    let fs : List Fragment := [⟨"name", .kept⟩, ⟨"age", .computed (.literal (.int32 1))⟩,
      ⟨"name", .computed (.path "x")⟩, ⟨"tags", .kept⟩, ⟨"name", .dropped⟩]
    let d : Document := Document.single "$project" (.document [("name", .int32 0),
      ("age", .document (Document.single "$literal" (.int32 1))), ("tags", .int32 1)])
    (Pipeline.empty.push (.project fs)).render = .ok [d] ∧
      (Pipeline.empty.project fs).render = .ok [d] := by
  intro fs d
  have hraw : (Pipeline.empty.push (.project fs)).render = .ok [d] := rfl
  exact ⟨hraw, (merging_keeps_rendering Pipeline.empty .null fs).1 [d] hraw⟩

end DocumentDb
