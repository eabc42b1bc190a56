import DocumentDb.Pipeline.Shape
import DocumentDb.Proofs.Value.Removal

/-!
# Projections that drop fields

A projection of which all fragments drop fields removes one path after the other. Since removals
commute and nothing is removed twice, the fragments may stand in any order, and a removal of one of
them may be made before or after all others without a difference.

**Theorem (`project_removes_named`).** A projection that only drops fields comes to one document, in
whatever order its fragments stand and however often it is made. Dropped paths through no array lead
nowhere, paths apart from the dropped ones lead where they led, and what else is left is what was
there, with some keys taken out.
-/

namespace DocumentDb

open Value (Trimmed)

variable {fs gs : List Fragment} {d : Document} {path : String}

/-! ## The run -/

theorem dropFields_cons (f : Fragment) (fs : List Fragment) (d : Document) :
    dropFields (f :: fs) d = dropFields fs (d.removePath f.name) := rfl

/-- Fields may be dropped in any order. -/
theorem dropFields_perm (h : gs.Perm fs) (d : Document) : dropFields gs d = dropFields fs d :=
  h.foldl_eq' (fun f _ g _ d => Document.removePath_comm d f.name g.name) d

theorem removePath_dropFields (fs : List Fragment) (d : Document) (path : String) :
    (dropFields fs d).removePath path = dropFields fs (d.removePath path) := by
  induction fs generalizing d with
  | nil => rfl
  | cons f fs ih => rw [dropFields_cons, dropFields_cons, ih, Document.removePath_comm]

/-- A field of the run may as well be dropped beforehand. -/
theorem dropFields_removePath {f : Fragment} (hf : f ∈ fs) (d : Document) :
    dropFields fs (d.removePath f.name) = dropFields fs d := by
  induction fs generalizing d with
  | nil => cases hf
  | cons g fs ih =>
    rw [dropFields_cons, dropFields_cons]
    rcases List.mem_cons.1 hf with rfl | hf
    · rw [Document.removePath_removePath]
    · rw [Document.removePath_comm, ih hf]

theorem dropFields_eq_self (h : ∀ f ∈ fs, d.removePath f.name = d) : dropFields fs d = d := by
  induction fs with
  | nil => rfl
  | cons f fs ih =>
    rw [List.forall_mem_cons] at h
    rw [dropFields_cons, h.1, ih h.2]

theorem dropFields_dropFields (fs : List Fragment) (d : Document) :
    dropFields fs (dropFields fs d) = dropFields fs d :=
  dropFields_eq_self fun _ hf => by rw [removePath_dropFields, dropFields_removePath hf]

theorem lookup_dropFields_of_unrelated (h : ∀ f ∈ fs, Path.Unrelated f.name path)
    (d : Document) : (dropFields fs d).lookup path = d.lookup path := by
  induction fs generalizing d with
  | nil => rfl
  | cons f fs ih =>
    rw [List.forall_mem_cons] at h
    exact (ih h.2 _).trans (Document.lookup_removePath_of_unrelated h.1 d)

/-- Whatever a path leads to afterwards is left of what it led to. -/
theorem exists_trimmed_of_lookup_dropFields {w : Value}
    (h : (dropFields fs d).lookup path = some w) : ∃ v, d.lookup path = some v ∧ Trimmed v w := by
  induction fs generalizing d with
  | nil => exact ⟨w, h, .refl w⟩
  | cons f fs ih =>
    obtain ⟨v, hv, hvw⟩ := ih h
    obtain ⟨u, hu, huv⟩ := Document.exists_trimmed_of_lookup_removePath hv
    exact ⟨u, hu, huv.trans hvw⟩

theorem lookup_dropFields_of_mem {f : Fragment} (hf : f ∈ fs)
    (h : d.ThroughNoArray (Path.segments f.name)) : (dropFields fs d).lookup f.name = none := by
  rw [← dropFields_removePath hf, Option.eq_none_iff_forall_ne_some]
  intro w hw
  obtain ⟨v, hv, -⟩ := exists_trimmed_of_lookup_dropFields hw
  rw [Document.lookup_removePath_self h] at hv
  cases hv

theorem lookup_dropFields_isSome
    (h : ∀ f ∈ fs, ¬ Path.segments f.name <+: Path.segments path)
    (hd : (d.lookup path).isSome = true) : ((dropFields fs d).lookup path).isSome = true := by
  induction fs generalizing d with
  | nil => exact hd
  | cons f fs ih =>
    rw [List.forall_mem_cons] at h
    exact ih h.2 (Document.lookup_removePath_isSome h.1 hd)

theorem keys_dropFields_sublist (fs : List Fragment) (d : Document) :
    (dropFields fs d).keys.Sublist d.keys := by
  induction fs generalizing d with
  | nil => exact .refl _
  | cons f fs ih => exact (ih _).trans (Document.keys_removePath_sublist d f.name)

/-! ## Main result -/

/-- All fragments drop fields. -/
def Exclusion (fs : List Fragment) : Prop :=
  ∀ f ∈ fs, f.value.isDropped = true

instance (fs : List Fragment) : Decidable (Exclusion fs) :=
  inferInstanceAs (Decidable (∀ f ∈ fs, _))

theorem Exclusion.of_perm (h : Exclusion fs) (hp : gs.Perm fs) : Exclusion gs :=
  fun f hf => h f (hp.mem_iff.1 hf)

theorem Exclusion.project_eq (h : Exclusion fs) (d : Document) :
    project fs d = .ok (dropFields fs d) := by
  rw [project, if_pos (List.all_eq_true.2 h)]

/-- **An exclusion removes what it names.** It comes to the same document in all orders of the
fragments, and when it is made again. A dropped path that goes through no array leads nowhere. A
path apart from all dropped ones leads where it led, and one that does not go on from a dropped one
leads somewhere if it did. No keys appear or change places, in the document or in the documents in
it. -/
theorem project_removes_named (h : Exclusion fs) (d : Document) :
    ∃ out, project fs d = .ok out ∧ project fs out = .ok out ∧
      (∀ gs, gs.Perm fs → project gs d = .ok out) ∧
      (∀ f ∈ fs, d.ThroughNoArray (Path.segments f.name) → out.lookup f.name = none) ∧
      (∀ path, (∀ f ∈ fs, Path.Unrelated f.name path) → out.lookup path = d.lookup path) ∧
      (∀ path, (∀ f ∈ fs, ¬ Path.segments f.name <+: Path.segments path) →
        (d.lookup path).isSome = true → (out.lookup path).isSome = true) ∧
      out.keys.Sublist d.keys ∧
      ∀ path w, out.lookup path = some w → ∃ v, d.lookup path = some v ∧ Trimmed v w := by
  refine ⟨dropFields fs d, h.project_eq d, ?_, fun gs hp => ?_,
    fun f hf => lookup_dropFields_of_mem hf,
    fun path hp => lookup_dropFields_of_unrelated hp d,
    fun path hp => lookup_dropFields_isSome hp, keys_dropFields_sublist fs d,
    fun path w => exists_trimmed_of_lookup_dropFields⟩
  · rw [h.project_eq, dropFields_dropFields]
  · rw [(h.of_perm hp).project_eq, dropFields_perm hp]

/-- Of a person: a document and an entry of it, an entry of an item of an array, and a name that is
not there. -/
theorem project_removes_named_of_person :
    let d : Document := [("_id", .string "p"),
      ("home", .document [("street", .string "S"), ("at", .document [("x", .int32 1)])]),
      ("tags", .array [.document [("k", .int32 1)]]), ("age", .int32 30)]
    let fs : List Fragment := [⟨"home.at", .dropped⟩, ⟨"home.at.x", .dropped⟩,
      ⟨"tags.0.k", .dropped⟩, ⟨"age", .dropped⟩, ⟨"name.first", .dropped⟩]
    Exclusion fs ∧ ∃ out, project fs d = .ok out ∧ project fs out = .ok out ∧
      project fs.reverse d = .ok out ∧ out.lookup "home.at" = none ∧
      out.lookup "home.at.x" = none ∧ out.lookup "age" = none ∧
      out.lookup "home.street" = some (.string "S") ∧ (out.lookup "home").isSome = true ∧
      out.lookup "tags" = some (.array [.document [("k", .int32 1)]]) := by
  intro d fs
  have h : Exclusion fs := by decide
  obtain ⟨out, hout, hagain, hperm, hgone, hstays, hleft, -, htrimmed⟩ :=
    project_removes_named h d
  refine ⟨h, out, hout, hagain, hperm _ fs.reverse_perm,
    hgone ⟨"home.at", .dropped⟩ (by simp [fs]) (by decide),
    hgone ⟨"home.at.x", .dropped⟩ (by simp [fs]) (by decide),
    hgone ⟨"age", .dropped⟩ (by simp [fs]) (by decide),
    hstays "home.street" (by decide), hleft "home" (by decide) rfl, ?_⟩
  -- The removal stops at the array, which is no document of which keys could be taken out.
  obtain ⟨w, hw⟩ := Option.isSome_iff_exists.1 (hleft "tags" (by decide) rfl)
  obtain ⟨v, hv, hvw⟩ := htrimmed "tags" w hw
  cases hv
  cases hvw
  exact hw

end DocumentDb
