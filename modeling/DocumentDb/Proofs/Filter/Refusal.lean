import DocumentDb.Memory.Backend
import DocumentDb.Proofs.Filter.Boolean
import DocumentDb.Remote.Database

/-!
# Where a flawed filter is refused

A filter is `Flawed` if something in it is wrong, at any depth: an operand that could not be encoded
or does not fit its operator, or a combination of nothing. These are the filters without a query
document (`not_renders_iff_flawed`).

**Meeting a flaw** (`Meets`). A filter is decided from the left, and a combination stops at the
operand that settles it. So a document meets a flaw if the operands before it leave each combination
around it open. Deciding fails exactly for the documents that meet one (`holds_eq_error_iff`).

**Theorem (`refused_where_met`).** A database refuses a filter exactly if it is flawed, and sends
nothing. The memory refuses it exactly if a stored document meets a flaw. So an empty collection
refuses nothing, and all others refuse the filter exactly if every document meets a flaw of it.
-/

namespace DocumentDb

namespace Filter

variable {d : Document} {f : Filter} {fs : List Filter} {e : Error}

/-! ## Flaws -/

/-- The filter itself is wrong, whatever its operands are. -/
inductive Wrong : Filter → Prop
  | invalid {reason : String} : Wrong (.invalid reason)
  | all_nil : Wrong (.all [])
  | any_nil : Wrong (.any [])
  | operand {field : String} {op : Comparison} {operand : Value}
      (h : op.accepts operand = false) : Wrong (.compare field op operand)

/-- Something in the filter is wrong. -/
inductive Flawed : Filter → Prop
  | here {f : Filter} (h : f.Wrong) : Flawed f
  | not {f : Filter} (h : Flawed f) : Flawed (.not f)
  | all {fs : List Filter} {f : Filter} (hf : f ∈ fs) (h : Flawed f) : Flawed (.all fs)
  | any {fs : List Filter} {f : Filter} (hf : f ∈ fs) (h : Flawed f) : Flawed (.any fs)

/-- Something in the filter is wrong, and deciding the filter on the document comes upon it. -/
inductive Meets (d : Document) : Filter → Prop
  | here {f : Filter} (h : f.Wrong) : Meets d f
  | not {f : Filter} (h : Meets d f) : Meets d (.not f)
  | all {before after : List Filter} {f : Filter} (hb : ∀ g ∈ before, g.holds d = .ok true)
      (h : Meets d f) : Meets d (.all (before ++ f :: after))
  | any {before after : List Filter} {f : Filter} (hb : ∀ g ∈ before, g.holds d = .ok false)
      (h : Meets d f) : Meets d (.any (before ++ f :: after))

theorem Meets.flawed (h : f.Meets d) : f.Flawed := by
  induction h with
  | here h => exact .here h
  | not _ ih => exact .not ih
  | all _ _ ih => exact .all (List.mem_append_cons_self ..) ih
  | any _ _ ih => exact .any (List.mem_append_cons_self ..) ih

/-- What passes from operands to their combinations holds of every filter. -/
@[elab_as_elim]
theorem induct {motive : Filter → Prop} (all : ∀ fs, (∀ f ∈ fs, motive f) → motive (.all fs))
    (any : ∀ fs, (∀ f ∈ fs, motive f) → motive (.any fs))
    (not : ∀ f, motive f → motive (.not f))
    (present : ∀ field expected, motive (.present field expected))
    (compare : ∀ field op operand, motive (.compare field op operand))
    (invalid : ∀ reason, motive (.invalid reason)) (f : Filter) : motive f :=
  @Filter.rec motive (fun fs => ∀ f ∈ fs, motive f) all any not present compare invalid
    (by simp) (fun _ _ hf hfs => List.forall_mem_cons.2 ⟨hf, hfs⟩) f

/-! ## Query documents -/

theorem renders_compare_iff {field : String} {op : Comparison} {operand : Value} :
    (compare field op operand).Renders ↔ op.accepts operand = true := by
  refine ⟨accepts_of_renders, fun h => ?_⟩
  by_cases ho : op = .eq
  · subst ho
    exact ⟨_, render_eq field operand⟩
  · exact ⟨_, (render_compare_eq_ok_iff ho).2 ⟨h, rfl⟩⟩

theorem Flawed.not_renders (h : f.Flawed) : ¬ f.Renders := by
  induction h with
  | here h =>
    cases h with
    | invalid => exact fun ⟨q, hq⟩ => nomatch hq
    | all_nil => exact fun h => (renders_all_iff.1 h).1 rfl
    | any_nil => exact fun h => (renders_any_iff.1 h).1 rfl
    | operand h =>
      rw [renders_compare_iff, h]
      decide
  | not _ ih => exact fun h => ih (renders_not_iff.1 h)
  | all hf _ ih => exact fun h => ih ((renders_all_iff.1 h).2 _ hf)
  | any hf _ ih => exact fun h => ih ((renders_any_iff.1 h).2 _ hf)

theorem renders_of_not_flawed (h : ¬ f.Flawed) : f.Renders := by
  induction f using induct with
  | all fs ih =>
    exact renders_all_iff.2 ⟨fun hn => h (.here (hn ▸ .all_nil)),
      fun f hf => ih f hf fun hw => h (.all hf hw)⟩
  | any fs ih =>
    exact renders_any_iff.2 ⟨fun hn => h (.here (hn ▸ .any_nil)),
      fun f hf => ih f hf fun hw => h (.any hf hw)⟩
  | not f ih => exact renders_not_iff.2 (ih fun hw => h (.not hw))
  | present field expected => exact ⟨_, rfl⟩
  | compare field op operand =>
    rw [renders_compare_iff]
    cases ha : op.accepts operand with
    | true => rfl
    | false => exact (h (.here (.operand ha))).elim
  | invalid reason => exact (h (.here .invalid)).elim

/-- The filters without a query document are the flawed ones. -/
theorem not_renders_iff_flawed : ¬ f.Renders ↔ f.Flawed :=
  ⟨fun h => Classical.byContradiction fun hf => h (renders_of_not_flawed hf), Flawed.not_renders⟩

/-! ## The error of a flaw -/

theorem exists_render_error_of_renderFilters (h : renderFilters fs = .error e) :
    ∃ f ∈ fs, f.render = .error e := by
  induction fs with
  | nil => cases h
  | cons f fs ih =>
    rw [renderFilters] at h
    cases hf : f.render with
    | error err =>
      rw [hf] at h
      cases h
      exact ⟨f, List.mem_cons_self, hf⟩
    | ok q =>
      rw [hf] at h
      cases hfs : renderFilters fs with
      | error err =>
        rw [hfs] at h
        cases h
        obtain ⟨g, hg, he⟩ := ih hfs
        exact ⟨g, List.mem_cons_of_mem f hg, he⟩
      | ok items =>
        rw [hfs] at h
        cases h

theorem eq_invalidOperand_of_render (h : f.render = .error e) :
    ∃ reason, e = .invalidOperand reason := by
  induction f using induct with
  | all fs ih | any fs ih =>
    cases fs with
    | nil =>
      cases h
      exact ⟨_, rfl⟩
    | cons f fs =>
      have hr : renderFilters (f :: fs) = .error e := by
        cases hr : renderFilters (f :: fs) <;> rw [render, hr] at h <;> cases h
        rfl
      obtain ⟨g, hg, hge⟩ := exists_render_error_of_renderFilters hr
      exact ih g hg hge
  | not f ih =>
    cases hf : f.render <;> rw [render, hf] at h <;> cases h
    exact ih hf
  | present field expected => cases h
  | compare field op operand =>
    cases op with
    | isIn | notIn =>
      cases operand <;> cases h
      all_goals exact ⟨_, rfl⟩
    | size =>
      rw [render, renderComparison] at h
      split at h <;> cases h
      exact ⟨_, rfl⟩
    | _ => cases h
  | invalid reason =>
    cases h
    exact ⟨reason, rfl⟩

/-! ## Deciding -/

theorem allHold_append {before : List Filter} (hb : ∀ g ∈ before, g.holds d = .ok true)
    (fs : List Filter) : allHold d (before ++ fs) = allHold d fs := by
  induction before with
  | nil => rfl
  | cons g before ih =>
    rw [List.forall_mem_cons] at hb
    rw [List.cons_append, allHold, hb.1, ← ih hb.2]
    rfl

theorem anyHolds_append {before : List Filter} (hb : ∀ g ∈ before, g.holds d = .ok false)
    (fs : List Filter) : anyHolds d (before ++ fs) = anyHolds d fs := by
  induction before with
  | nil => rfl
  | cons g before ih =>
    rw [List.forall_mem_cons] at hb
    rw [List.cons_append, anyHolds, hb.1, ← ih hb.2]
    rfl

theorem comparisonHolds_error_of_not_accepts {field : String} {op : Comparison}
    {operand : Value} (h : op.accepts operand = false) (v : Option Value) :
    ∃ reason, comparisonHolds field op v operand = .error (.invalidOperand reason) := by
  cases op with
  | isIn | notIn =>
    cases operand with
    | array items => cases h
    | _ => exact ⟨_, rfl⟩
  | size =>
    rw [Comparison.accepts, Option.isSome_eq_false_iff, Option.isNone_iff_eq_none] at h
    rw [comparisonHolds, h]
    exact ⟨_, rfl⟩
  | _ => cases h

/-- A document that meets a flaw cannot be decided. -/
theorem Meets.holds (h : f.Meets d) : ∃ reason, f.holds d = .error (.invalidOperand reason) := by
  induction h with
  | here h =>
    cases h with
    | operand h => exact comparisonHolds_error_of_not_accepts h _
    | _ => exact ⟨_, rfl⟩
  | not _ ih =>
    obtain ⟨reason, hr⟩ := ih
    rw [Filter.holds, hr]
    exact ⟨reason, rfl⟩
  | all hb _ ih =>
    obtain ⟨reason, hr⟩ := ih
    rw [Filter.holds, requireOperands_of_ne_nil "$and" (by simp)]
    show ∃ reason, allHold d _ = _
    rw [allHold_append hb, allHold, hr]
    exact ⟨reason, rfl⟩
  | any hb _ ih =>
    obtain ⟨reason, hr⟩ := ih
    rw [Filter.holds, requireOperands_of_ne_nil "$or" (by simp)]
    show ∃ reason, anyHolds d _ = _
    rw [anyHolds_append hb, anyHolds, hr]
    exact ⟨reason, rfl⟩

/-- A conjunction fails at an operand behind some that hold. -/
theorem exists_split_of_allHold_error (h : allHold d fs = .error e) :
    ∃ before f after, fs = before ++ f :: after ∧ (∀ g ∈ before, g.holds d = .ok true) ∧
      f.holds d = .error e := by
  induction fs with
  | nil => cases h
  | cons f fs ih =>
    rw [allHold] at h
    cases hf : f.holds d with
    | error err =>
      rw [hf] at h
      cases h
      exact ⟨[], f, fs, rfl, by simp, hf⟩
    | ok b =>
      rw [hf] at h
      cases b with
      | false => cases h
      | true =>
        obtain ⟨before, g, after, rfl, hb, hg⟩ := ih h
        exact ⟨f :: before, g, after, rfl, List.forall_mem_cons.2 ⟨hf, hb⟩, hg⟩

/-- A disjunction fails at an operand behind some that do not hold. -/
theorem exists_split_of_anyHolds_error (h : anyHolds d fs = .error e) :
    ∃ before f after, fs = before ++ f :: after ∧ (∀ g ∈ before, g.holds d = .ok false) ∧
      f.holds d = .error e := by
  induction fs with
  | nil => cases h
  | cons f fs ih =>
    rw [anyHolds] at h
    cases hf : f.holds d with
    | error err =>
      rw [hf] at h
      cases h
      exact ⟨[], f, fs, rfl, by simp, hf⟩
    | ok b =>
      rw [hf] at h
      cases b with
      | true => cases h
      | false =>
        obtain ⟨before, g, after, rfl, hb, hg⟩ := ih h
        exact ⟨f :: before, g, after, rfl, List.forall_mem_cons.2 ⟨hf, hb⟩, hg⟩

/-- A document that cannot be decided meets a flaw. -/
theorem meets_of_holds_error (h : f.holds d = .error e) : f.Meets d := by
  induction f using induct with
  | all fs ih =>
    cases fs with
    | nil => exact .here .all_nil
    | cons f fs =>
      obtain ⟨before, g, after, hs, hb, hg⟩ := exists_split_of_allHold_error h
      rw [hs] at ih ⊢
      exact .all hb (ih g (List.mem_append_cons_self ..) hg)
  | any fs ih =>
    cases fs with
    | nil => exact .here .any_nil
    | cons f fs =>
      obtain ⟨before, g, after, hs, hb, hg⟩ := exists_split_of_anyHolds_error h
      rw [hs] at ih ⊢
      exact .any hb (ih g (List.mem_append_cons_self ..) hg)
  | not f ih =>
    cases hf : f.holds d <;> rw [Filter.holds, hf] at h <;> cases h
    exact .not (ih hf)
  | present field expected => cases h
  | compare field op operand =>
    cases ha : op.accepts operand with
    | false => exact .here (.operand ha)
    | true =>
      rw [Filter.holds, comparisonHolds_of_accepts field _ ha] at h
      cases h
  | invalid reason => exact .here .invalid

/-- **Deciding fails** exactly for the documents that meet a flaw. -/
theorem holds_eq_error_iff : (∃ e, f.holds d = .error e) ↔ f.Meets d :=
  ⟨fun ⟨_, h⟩ => meets_of_holds_error h, fun h =>
    have ⟨_, hr⟩ := h.holds
    ⟨_, hr⟩⟩

/-! ## Selecting -/

theorem exists_mem_holds_error_of_select {docs : List Document} (h : f.select docs = .error e) :
    ∃ d ∈ docs, f.holds d = .error e := by
  induction docs with
  | nil => cases h
  | cons d docs ih =>
    rw [select] at h
    cases hd : f.holds d with
    | error err =>
      rw [hd] at h
      cases h
      exact ⟨d, List.mem_cons_self, hd⟩
    | ok keep =>
      rw [hd] at h
      cases hs : f.select docs with
      | error err =>
        rw [hs] at h
        cases h
        obtain ⟨d', hd', he⟩ := ih hs
        exact ⟨d', List.mem_cons_of_mem d hd', he⟩
      | ok kept =>
        rw [hs] at h
        cases h

/-- One document that meets a flaw fails the selection. -/
theorem Meets.select {docs : List Document} (hd : d ∈ docs) (h : f.Meets d) :
    ∃ reason, f.select docs = .error (.invalidOperand reason) := by
  induction docs with
  | nil => cases hd
  | cons d' docs ih =>
    rw [Filter.select]
    cases hf : f.holds d' with
    | error e =>
      obtain ⟨reason, hr⟩ := (meets_of_holds_error hf).holds
      rw [hf] at hr
      cases hr
      exact ⟨reason, rfl⟩
    | ok keep =>
      rcases List.mem_cons.1 hd with rfl | hd
      · obtain ⟨reason, hr⟩ := h.holds
        rw [hf] at hr
        cases hr
      · obtain ⟨reason, hr⟩ := ih hd
        rw [hr]
        exact ⟨reason, rfl⟩

end Filter

/-! ## Backends -/

/-- The backend refuses to find, to count and to start an aggregation with what the filter means,
and is left as it was. -/
def Backend.Refuses {σ : Type} (b : Backend σ) (s : σ) (name : String) (f : Filter) : Prop :=
  ∃ reason,
    (b.find name (some f)).run.run s = (.error (.invalidOperand reason), s) ∧
    (b.count name (some f)).run.run s = (.error (.invalidOperand reason), s) ∧
    ∀ stages, (b.aggregate name ⟨.filter f :: stages⟩).run.run s
      = (.error (.invalidOperand reason), s)

namespace Memory

variable {s : Store} {name : String} {f : Filter}

theorem refuses_of_select {reason : String}
    (h : f.select (s.documents name) = .error (.invalidOperand reason)) :
    backend.Refuses s name f := by
  have hfind : s.findDocuments name (some f) = .error (.invalidOperand reason) := h
  refine ⟨reason, ?_, ?_, fun stages => ?_⟩
  · show (s.findDocuments name (some f), s) = _
    rw [hfind]
  · show (s.countDocuments name (some f), s) = _
    rw [Store.countDocuments, hfind]
    rfl
  · show ((s.aggregate name ⟨.filter f :: stages⟩).map _, s) = _
    rw [Store.aggregate, Pipeline.run, List.foldlM_cons, Stage.run, h]
    rfl

/-- The memory refuses a filter exactly if a document that it stores meets a flaw of it. -/
theorem refuses_iff_meets : backend.Refuses s name f ↔ ∃ d ∈ s.documents name, f.Meets d := by
  constructor
  · rintro ⟨reason, hfind, -⟩
    have h : f.select (s.documents name) = .error (.invalidOperand reason) :=
      (Prod.mk.inj hfind).1
    obtain ⟨d, hd, he⟩ := Filter.exists_mem_holds_error_of_select h
    exact ⟨d, hd, Filter.meets_of_holds_error he⟩
  · rintro ⟨d, hd, h⟩
    obtain ⟨reason, hr⟩ := h.select hd
    exact refuses_of_select hr

end Memory

namespace Remote

variable {db : Database} {t : Session} {name : String} {f : Filter}

/-- A database refuses a flawed filter before it sends anything. -/
theorem refuses_of_flawed (h : f.Flawed) : db.backend.Refuses t name f := by
  cases hr : f.render with
  | ok q => exact (h.not_renders ⟨q, hr⟩).elim
  | error e =>
    obtain ⟨reason, rfl⟩ := Filter.eq_invalidOperand_of_render hr
    refine ⟨reason, ?_, ?_, fun stages => ?_⟩
    · show (db.findDocuments name (some f)) t = _
      rw [Database.findDocuments, filterDocument, hr]
      rfl
    · show (db.countDocuments name (some f)) t = _
      rw [Database.countDocuments, filterDocument, hr]
      rfl
    · show (db.aggregate name ⟨.filter f :: stages⟩) t = _
      rw [Database.aggregate, Pipeline.render, List.mapM_cons, Stage.render, Stage.renderBody, hr]
      rfl

/-- What an exchange with a server fails with is an error of the database. -/
theorem native_ne_invalidOperand {α : Type} (x : Exchange α) (t : Session) (reason : String) :
    (x.native t).1 ≠ .error (.invalidOperand reason) := by
  rw [Exchange.native]
  rcases x t with ⟨_ | _, t'⟩ <;> intro h <;> cases h

theorem flawed_of_refuses (h : db.backend.Refuses t name f) : f.Flawed := by
  obtain ⟨reason, hfind, -⟩ := h
  rw [← Filter.not_renders_iff_flawed]
  rintro ⟨q, hq⟩
  have hs : (readAll (db.request (.find name q))).native t
      = (.error (.invalidOperand reason), t) := by
    rw [← hfind]
    show _ = (db.findDocuments name (some f)) t
    rw [Database.findDocuments, filterDocument, hq]
    rfl
  exact native_ne_invalidOperand _ t reason (congrArg Prod.fst hs)

end Remote

/-- **Where a flawed filter is refused**: by a database in every state, and by the memory exactly
if a stored document meets a flaw. So the memory refuses a filter on all collections that hold
something exactly if every document meets a flaw of it, and on an empty collection never. -/
theorem Filter.refused_where_met (f : Filter) (name : String) :
    ((∃ e, f.render = .error e) ↔ f.Flawed) ∧
    (∀ (db : Remote.Database) t, db.backend.Refuses t name f ↔ f.Flawed) ∧
    (∀ s, Memory.backend.Refuses s name f ↔ ∃ d ∈ s.documents name, f.Meets d) ∧
    (∀ s, ¬ Memory.backend.Refuses s name f →
      ∃ docs, (Memory.backend.find name (some f)).run.run s = (.ok docs, s)) ∧
    ((∀ s : Memory.Store, s.documents name ≠ [] → Memory.backend.Refuses s name f) ↔
      ∀ d, f.Meets d) := by
  refine ⟨?_, fun db t => ⟨Remote.flawed_of_refuses, Remote.refuses_of_flawed⟩,
    fun s => Memory.refuses_iff_meets, fun s hs => ?_, fun h d => ?_, fun h s hs => ?_⟩
  · rw [← not_renders_iff_flawed, Renders]
    cases f.render <;> simp
  · cases hsel : f.select (s.documents name) with
    | ok docs => exact ⟨docs, congrArg (·, s) hsel⟩
    | error e =>
      obtain ⟨d, hd, he⟩ := exists_mem_holds_error_of_select hsel
      exact (hs (Memory.refuses_iff_meets.2 ⟨d, hd, meets_of_holds_error he⟩)).elim
  · -- a collection of this one document
    let s : Memory.Store := { collections := [(name, { documents := [d] })] }
    have hd : s.documents name = [d] := by
      simp [s, Memory.Store.documents, Memory.Store.collection, Assoc.get?]
    obtain ⟨d', hd', hm⟩ := Memory.refuses_iff_meets.1 (h s (by simp [hd]))
    rw [hd, List.mem_singleton] at hd'
    exact hd' ▸ hm
  · obtain ⟨d, hd⟩ := List.exists_mem_of_ne_nil _ hs
    exact Memory.refuses_iff_meets.2 ⟨d, hd, h d⟩

/-- Not every filter without a query document is refused by the memory: an invalid operand finds
nothing in an empty collection, and as an alternative it is hidden by the operand in front of it. -/
theorem Filter.flawed_not_refused :
    ¬ (∀ (f : Filter) (s : Memory.Store) (name : String), (∃ e, f.render = .error e) →
        Memory.backend.Refuses s name f) ∧
    ((Memory.backend.find "people" (some (.invalid "bad"))).run.run {}).1 = .ok [] ∧
    (let hidden : Filter := .any [.present idKey true, .invalid "bad"]
     let ada := Document.single idKey (.string "ada")
     (∃ e, hidden.render = .error e) ∧
      ((Memory.backend.find "people" (some hidden)).run.run
        { collections := [("people", { documents := [ada] })] }).1 = .ok [ada]) := by
  refine ⟨fun h => ?_, rfl, ⟨_, rfl⟩, rfl⟩
  obtain ⟨_, hfind, -⟩ := h (.invalid "bad") {} "people" ⟨_, rfl⟩
  cases congrArg Prod.fst hfind

end DocumentDb
