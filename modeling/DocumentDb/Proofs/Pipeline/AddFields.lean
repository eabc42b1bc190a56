import DocumentDb.Pipeline.Shape
import DocumentDb.Proofs.Expression.Paths
import DocumentDb.Proofs.Result
import DocumentDb.Proofs.Value.Rearranged
import Mathlib.Data.List.Induction
import Mathlib.Data.List.Pairwise

/-!
# Fields added to a document

A stage that adds fields evaluates each expression on the document that the fields in front have
left, where a projection evaluates all of them on the document that came in. So the stage computes
its fields from what came in exactly as far as no expression notices the fields in front.

**What a field comes to** (`Computed.outcome`). The value of its expression on some document or,
where that is missing, the old value at its path.

**Separate fields** (`Separate`). No path begins with another one, and none goes through an array of
the document. Each field then stays as it was put, and everything else as it came in (`KeepsRest`).

**Seeing the input** (`SeesInput`). Each expression comes to the same on the document that the
fields in front have left as on the one that came in. It does if it reads no path that begins with
the path of a field in front, or the other way round (`seesInput_of_paths`).

**Theorem (`addFields_computes_iff`).** Separate fields are all computed from the document that came
in exactly if they see it, and then their order tells nothing but the order of keys.
-/

namespace DocumentDb

/-! ## Updates -/

namespace Document

open Value (Rearranged)

variable {d e : Document} {path : String} {v : Option Value}

/-- Puts a value at a path, if there is one. -/
def update (d : Document) (path : String) (v : Option Value) : Document :=
  match v with
  | some v => d.setPath path v
  | none => d

theorem lookup_update (d : Document) (path : String) (v : Option Value) :
    (d.update path v).lookup path = v.or (d.lookup path) := by
  cases v with
  | none => rfl
  | some v => exact lookup_setPath d path v

theorem lookup_update_of_unrelated {other : String} (h : Path.Unrelated path other)
    (hd : d.ThroughNoArray (Path.segments path)) (v : Option Value) :
    (d.update path v).lookup other = d.lookup other := by
  cases v with
  | none => rfl
  | some v => exact resolve_setSegments_of_apart v h hd

theorem ThroughNoArray.update {other : String} (h : d.ThroughNoArray (Path.segments other))
    (hp : Path.Unrelated path other) (v : Option Value) :
    (d.update path v).ThroughNoArray (Path.segments other) := by
  cases v with
  | none => exact h
  | some v => exact h.setSegments hp v

/-- Keeping the old value and putting it anew are the same. -/
theorem update_or_lookup (hd : d.ThroughNoArray (Path.segments path)) :
    d.update path (v.or (d.lookup path)) = d.update path v := by
  cases v with
  | some v => rfl
  | none =>
    rw [Option.none_or]
    cases h : d.lookup path with
    | none => rfl
    | some w => exact setSegments_eq_self hd h

theorem rearranged_update (h : Rearranged (.document d) (.document e)) (path : String)
    (v : Option Value) :
    Rearranged (.document (d.update path v)) (.document (e.update path v)) := by
  cases v with
  | none => exact h
  | some v => exact h.setSegments v _

theorem rearranged_update_comm {other : String} (h : Path.Unrelated path other)
    (v w : Option Value) (d : Document) :
    Rearranged (.document ((d.update path v).update other w))
      (.document ((d.update other w).update path v)) := by
  cases v with
  | none => exact .refl _
  | some v =>
    cases w with
    | none => exact .refl _
    | some w => exact rearranged_setSegments_comm h v w d

end Document

/-! ## Computed fields -/

/-- A field that is computed. -/
structure Computed where
  name : String
  expression : Expression

namespace Computed

/-- The fragment of the field. -/
def fragment (c : Computed) : Fragment :=
  .compute c.name c.expression

/-- What the field of the document `d` comes to if its expression is evaluated on `seen`: its value
or, where that is missing, what stands at the path of the field. -/
def outcome (d seen : Document) (c : Computed) : Except Error (Option Value) := do
  return (← c.expression.evaluate seen).or (d.lookup c.name)

/-- The value of the expression on a document; nothing where it is missing or fails. -/
def value? (d : Document) (c : Computed) : Option Value :=
  (c.expression.evaluate d).toOption.join

theorem outcome_eq_ok_iff {d seen : Document} {c : Computed} {v : Option Value} :
    c.outcome d seen = .ok v ↔
      ∃ w, c.expression.evaluate seen = .ok w ∧ v = w.or (d.lookup c.name) :=
  bind_pure_eq_ok_iff

theorem outcome_self {d : Document} {c : Computed} (h : ∃ v, c.expression.evaluate d = .ok v) :
    c.outcome d d = .ok ((c.value? d).or (d.lookup c.name)) := by
  obtain ⟨v, hv⟩ := h
  rw [outcome_eq_ok_iff]
  exact ⟨v, hv, by rw [value?, hv]; rfl⟩

end Computed

open Computed (fragment)

variable {cs cs' : List Computed} {c : Computed} {d d' : Document}

/-- The fields have paths of which none begins with another one, and none goes through an array of
the document. -/
structure Separate (cs : List Computed) (d : Document) : Prop where
  unrelated : cs.Pairwise fun c c' => Path.Unrelated c.name c'.name
  throughNoArray : ∀ c ∈ cs, d.ThroughNoArray (Path.segments c.name)

theorem Separate.perm (h : Separate cs d) (hp : cs'.Perm cs) : Separate cs' d where
  unrelated := (hp.pairwise_iff Path.Apart.symm).2 h.unrelated
  throughNoArray c hc := h.throughNoArray c (hp.mem_iff.1 hc)

theorem separate_concat : Separate (cs ++ [c]) d ↔
    Separate cs d ∧ (∀ b ∈ cs, Path.Unrelated b.name c.name) ∧
      d.ThroughNoArray (Path.segments c.name) := by
  constructor
  · rintro ⟨hu, ha⟩
    rw [List.pairwise_append] at hu
    exact ⟨⟨hu.1, fun b hb => ha b (List.mem_append_left _ hb)⟩,
      fun b hb => hu.2.2 b hb c (List.mem_singleton_self c), ha c List.mem_concat_self⟩
  · rintro ⟨⟨hu, ha⟩, hc, hca⟩
    refine ⟨List.pairwise_append.2 ⟨hu, List.pairwise_singleton _ _, ?_⟩, ?_⟩
    · simpa using hc
    · simpa [or_imp, forall_and] using ⟨ha, hca⟩

/-! ## The run -/

theorem addFields_cons (c : Computed) (fs : List Fragment) (d : Document) :
    addFields (c.fragment :: fs) d =
      (do addFields fs (d.update c.name (← c.expression.evaluate d))) := by
  rw [addFields]
  refine bind_congr fun v => ?_
  cases v <;> rfl

theorem addFields_append (cs : List Computed) (fs : List Fragment) (d : Document) :
    addFields (cs.map fragment ++ fs) d =
      (do addFields fs (← addFields (cs.map fragment) d)) := by
  induction cs generalizing d with
  | nil => rfl
  | cons c cs ih =>
    rw [List.map_cons, List.cons_append, addFields_cons, addFields_cons, bind_assoc]
    exact bind_congr fun v => ih _

/-- The run up to a field, and the step of that field. -/
theorem addFields_concat_eq_ok_iff :
    addFields ((cs ++ [c]).map fragment) d = .ok d' ↔
      ∃ d₁ v, addFields (cs.map fragment) d = .ok d₁ ∧ c.expression.evaluate d₁ = .ok v ∧
        d' = d₁.update c.name v := by
  rw [List.map_append, addFields_append]
  simp only [bind_eq_ok_iff, List.map_cons, List.map_nil, addFields_cons, addFields,
    Except.ok.injEq, exists_and_left, eq_comm (a := d')]

/-- The second document differs from the first one at most at the paths of the fields. -/
structure KeepsRest (cs : List Computed) (d d' : Document) : Prop where
  lookup : ∀ path, (∀ c ∈ cs, Path.Unrelated c.name path) → d'.lookup path = d.lookup path
  throughNoArray : ∀ path, (∀ c ∈ cs, Path.Unrelated c.name path) →
    d.ThroughNoArray (Path.segments path) → d'.ThroughNoArray (Path.segments path)

/-- What one field keeps. -/
theorem KeepsRest.update {d₁ : Document} (h : KeepsRest cs d d₁)
    (hc : d₁.ThroughNoArray (Path.segments c.name)) (v : Option Value) :
    KeepsRest (cs ++ [c]) d (d₁.update c.name v) where
  lookup path hp := by
    rw [List.forall_mem_append, List.forall_mem_singleton] at hp
    rw [Document.lookup_update_of_unrelated hp.2 hc, h.lookup path hp.1]
  throughNoArray path hp ha := by
    rw [List.forall_mem_append, List.forall_mem_singleton] at hp
    exact (h.throughNoArray path hp.1 ha).update hp.2 v

/-- What the whole run keeps. -/
theorem keepsRest_of_addFields (hs : Separate cs d) (h : addFields (cs.map fragment) d = .ok d') :
    KeepsRest cs d d' := by
  induction cs using List.reverseRecOn generalizing d' with
  | nil =>
    cases h
    exact ⟨fun _ _ => rfl, fun _ _ ha => ha⟩
  | append_singleton cs c ih =>
    obtain ⟨hcs, hu, ha⟩ := separate_concat.1 hs
    obtain ⟨d₁, v, hd₁, -, rfl⟩ := addFields_concat_eq_ok_iff.1 h
    have hk := ih hcs hd₁
    exact hk.update (hk.throughNoArray c.name hu ha) v

/-- After the step of a field the ones in front hold what they held, and it holds its value or what
came in. -/
theorem lookup_update_of_addFields {d₁ : Document} (hs : Separate (cs ++ [c]) d)
    (hd₁ : addFields (cs.map fragment) d = .ok d₁) (v : Option Value) :
    (∀ b ∈ cs, (d₁.update c.name v).lookup b.name = d₁.lookup b.name) ∧
      (d₁.update c.name v).lookup c.name = v.or (d.lookup c.name) := by
  obtain ⟨hcs, hu, ha⟩ := separate_concat.1 hs
  have hk := keepsRest_of_addFields hcs hd₁
  have hna := hk.throughNoArray c.name hu ha
  refine ⟨fun b hb => Document.lookup_update_of_unrelated (hu b hb).symm hna v, ?_⟩
  rw [Document.lookup_update, hk.lookup c.name hu]

/-! ## Computing from what came in -/

/-- On the document that the fields in front have left, each expression comes to what it comes to
on the document that came in. -/
def SeesInput (cs : List Computed) (d : Document) : Prop :=
  ∀ before c after d₁, cs = before ++ c :: after →
    addFields (before.map fragment) d = .ok d₁ → c.outcome d d₁ = c.outcome d d

theorem seesInput_concat : SeesInput (cs ++ [c]) d ↔
    SeesInput cs d ∧
      ∀ d₁, addFields (cs.map fragment) d = .ok d₁ → c.outcome d d₁ = c.outcome d d := by
  refine ⟨fun h => ⟨fun before b after d₁ hcs => ?_, fun d₁ => h cs c [] d₁ rfl⟩, ?_⟩
  · exact h before b (after ++ [c]) d₁ (by rw [hcs, List.append_assoc, List.cons_append])
  · rintro ⟨h, hc⟩ before b after d₁ hcs hd₁
    rcases List.eq_nil_or_concat after with rfl | ⟨after, c', rfl⟩
    · obtain ⟨rfl, hb⟩ := List.append_inj' hcs rfl
      obtain rfl := List.singleton_inj.1 hb
      exact hc d₁ hd₁
    · rw [List.concat_eq_append, ← List.cons_append, ← List.append_assoc] at hcs
      obtain ⟨rfl, -⟩ := List.append_inj' hcs rfl
      exact h before b after d₁ rfl hd₁

theorem exists_seesInput_iff (hs : Separate cs d)
    (hok : ∀ c ∈ cs, ∃ v, c.expression.evaluate d = .ok v) :
    (∃ d', addFields (cs.map fragment) d = .ok d' ∧
      ∀ c ∈ cs, c.outcome d d = .ok (d'.lookup c.name)) ↔ SeesInput cs d := by
  induction cs using List.reverseRecOn with
  | nil => simp [SeesInput, addFields]
  | append_singleton cs c ih =>
    rw [List.forall_mem_append, List.forall_mem_singleton] at hok
    rw [seesInput_concat, ← ih (separate_concat.1 hs).1 hok.1]
    constructor
    · rintro ⟨d', hd', hc⟩
      obtain ⟨d₁, v, hd₁, hv, rfl⟩ := addFields_concat_eq_ok_iff.1 hd'
      obtain ⟨hfront, hself⟩ := lookup_update_of_addFields hs hd₁ v
      rw [List.forall_mem_append, List.forall_mem_singleton] at hc
      refine ⟨⟨d₁, hd₁, fun b hb => by rw [hc.1 b hb, hfront b hb]⟩, fun d₂ hd₂ => ?_⟩
      rw [hd₁] at hd₂
      cases hd₂
      rw [hc.2, hself, Computed.outcome_eq_ok_iff]
      exact ⟨v, hv, rfl⟩
    · rintro ⟨⟨d₁, hd₁, hb⟩, hc⟩
      have hcd := Computed.outcome_self hok.2
      obtain ⟨v, hv, hvd⟩ := Computed.outcome_eq_ok_iff.1 ((hc d₁ hd₁).trans hcd)
      obtain ⟨hfront, hself⟩ := lookup_update_of_addFields hs hd₁ v
      refine ⟨_, addFields_concat_eq_ok_iff.2 ⟨d₁, v, hd₁, hv, rfl⟩, ?_⟩
      rw [List.forall_mem_append, List.forall_mem_singleton]
      exact ⟨fun b hb' => by rw [hb b hb', hfront b hb'], by rw [hcd, hvd, hself]⟩

/-- An expression that reads nothing at the path of a field in front does not notice it. -/
theorem seesInput_of_paths (hs : Separate cs d)
    (h : cs.Pairwise fun b c => ∀ p ∈ c.expression.paths, Path.Unrelated b.name p) :
    SeesInput cs d := by
  induction cs using List.reverseRecOn with
  | nil => simp [SeesInput]
  | append_singleton cs c ih =>
    obtain ⟨hcs, -, -⟩ := separate_concat.1 hs
    rw [List.pairwise_append] at h
    rw [seesInput_concat]
    refine ⟨ih hcs h.1, fun d₁ hd₁ => ?_⟩
    rw [Computed.outcome, Computed.outcome, Expression.evaluate_congr fun p hp => ?_]
    exact (keepsRest_of_addFields hcs hd₁).lookup p fun b hb =>
      h.2.2 b hb c (List.mem_singleton_self c) p hp

/-! ## Another order -/

/-- Puts the values that some fields have on the document `d`. -/
def addAtOnce (d : Document) (cs : List Computed) (into : Document) : Document :=
  cs.foldl (fun into c => into.update c.name (c.value? d)) into

theorem addFields_of_seesInput (hs : Separate cs d)
    (hok : ∀ c ∈ cs, ∃ v, c.expression.evaluate d = .ok v) (h : SeesInput cs d) :
    addFields (cs.map fragment) d = .ok (addAtOnce d cs d) := by
  induction cs using List.reverseRecOn with
  | nil => rfl
  | append_singleton cs c ih =>
    obtain ⟨hcs, hu, ha⟩ := separate_concat.1 hs
    rw [List.forall_mem_append, List.forall_mem_singleton] at hok
    obtain ⟨h, hc⟩ := seesInput_concat.1 h
    have hd₁ := ih hcs hok.1 h
    have hk := keepsRest_of_addFields hcs hd₁
    obtain ⟨v, hv, hvd⟩ := Computed.outcome_eq_ok_iff.1
      ((hc _ hd₁).trans (Computed.outcome_self hok.2))
    refine addFields_concat_eq_ok_iff.2 ⟨_, v, hd₁, hv, ?_⟩
    have hna := hk.throughNoArray c.name hu ha
    rw [addAtOnce, List.foldl_append, List.foldl_cons, List.foldl_nil, ← addAtOnce,
      ← Document.update_or_lookup hna, hk.lookup c.name hu, hvd, ← hk.lookup c.name hu,
      Document.update_or_lookup hna]

open Value (Rearranged)

theorem rearranged_addAtOnce {into into' : Document}
    (h : Rearranged (.document into) (.document into')) (d : Document) (cs : List Computed) :
    Rearranged (.document (addAtOnce d cs into)) (.document (addAtOnce d cs into')) := by
  induction cs generalizing into into' with
  | nil => exact h
  | cons c cs ih => exact ih (Document.rearranged_update h c.name (c.value? d))

theorem rearranged_addAtOnce_perm (hp : cs'.Perm cs)
    (hu : cs.Pairwise fun c c' => Path.Unrelated c.name c'.name) (d into : Document) :
    Rearranged (.document (addAtOnce d cs' into)) (.document (addAtOnce d cs into)) := by
  induction hp generalizing into with
  | nil => exact .refl _
  | cons c _ ih => exact ih (List.pairwise_cons.1 hu).2 _
  | swap c b cs =>
    obtain ⟨hcb, -⟩ := List.pairwise_cons.1 hu
    have hbc : Path.Unrelated b.name c.name := (hcb b List.mem_cons_self).symm
    exact rearranged_addAtOnce (Document.rearranged_update_comm hbc _ _ into) d cs
  | trans _ hp ih ih' =>
    exact (ih ((hp.pairwise_iff Path.Apart.symm).2 hu) into).trans (ih' hu into)

/-! ## What the stage computes -/

/-- **Fields are computed from what came in exactly if they see it.** In any case everything apart
from them stays; and orders in which they see it differ in the order of keys. Fields see what came
in whenever they read nothing at the paths of those in front. -/
theorem addFields_computes_iff (hs : Separate cs d)
    (hok : ∀ c ∈ cs, ∃ v, c.expression.evaluate d = .ok v) :
    ((∃ d', addFields (cs.map fragment) d = .ok d' ∧
        ∀ c ∈ cs, c.outcome d d = .ok (d'.lookup c.name)) ↔ SeesInput cs d) ∧
      (∀ d', addFields (cs.map fragment) d = .ok d' →
        ∀ path, (∀ c ∈ cs, Path.Unrelated c.name path) → d'.lookup path = d.lookup path) ∧
      (∀ cs', cs'.Perm cs → SeesInput cs' d → SeesInput cs d →
        ∃ d₁ d₂, addFields (cs'.map fragment) d = .ok d₁ ∧ addFields (cs.map fragment) d = .ok d₂ ∧
          Rearranged (.document d₁) (.document d₂)) ∧
      ∀ cs', cs'.Perm cs →
        (cs'.Pairwise fun b c => ∀ p ∈ c.expression.paths, Path.Unrelated b.name p) →
          SeesInput cs' d := by
  refine ⟨exists_seesInput_iff hs hok, fun d' hd' => (keepsRest_of_addFields hs hd').lookup,
    fun cs' hp hcs' hcs => ?_, fun cs' hp => seesInput_of_paths (hs.perm hp)⟩
  have hok' : ∀ c ∈ cs', ∃ v, c.expression.evaluate d = .ok v := fun c hc => hok c (hp.mem_iff.1 hc)
  exact ⟨_, _, addFields_of_seesInput (hs.perm hp) hok' hcs', addFields_of_seesInput hs hok hcs,
    rearranged_addAtOnce_perm hp hs.unrelated d d⟩

/-- Fields next to each other in one document, of which one counts itself up. -/
theorem addFields_computes_iff_of_nested :
    let d : Document := [("a", .document [("b", .int32 1)]), ("m", .int32 2), ("n", .int32 5)]
    let cs : List Computed := [⟨"a.b", .operator "$add" (.array [.path "a.b", .path "m"])⟩,
      ⟨"a.c", .path "m"⟩, ⟨"a.d", .literal .null⟩, ⟨"n", .path "nowhere"⟩]
    Separate cs d ∧
      (∃ d', addFields (cs.map fragment) d = .ok d' ∧
        ∀ c ∈ cs, c.outcome d d = .ok (d'.lookup c.name)) ∧
      ∃ d₁ d₂, addFields (cs.reverse.map fragment) d = .ok d₁ ∧
        addFields (cs.map fragment) d = .ok d₂ ∧ Rearranged (.document d₁) (.document d₂) := by
  intro d cs
  have hs : Separate cs d := ⟨by decide, by decide⟩
  have hok : ∀ c ∈ cs, ∃ v, c.expression.evaluate d = .ok v := by
    simp only [cs, List.forall_mem_cons]
    exact ⟨⟨_, rfl⟩, ⟨_, rfl⟩, ⟨_, rfl⟩, ⟨_, rfl⟩, by simp⟩
  obtain ⟨hiff, -, hperm, hsees⟩ := addFields_computes_iff hs hok
  have hcs : SeesInput cs d := hsees cs (.refl _) (by decide)
  have hrev : SeesInput cs.reverse d := hsees cs.reverse (List.reverse_perm cs) (by decide)
  exact ⟨hs, hiff.2 hcs, hperm cs.reverse (List.reverse_perm cs) hrev hcs⟩

/-- A field that reads one in front of it finds the new value there, and the old one if it comes
first. -/
theorem addFields_reads_field_in_front :
    let d : Document := [("a", .int32 1)]
    let ab : List Computed := [⟨"a", .literal (.int32 2)⟩, ⟨"b", .path "a"⟩]
    let ba : List Computed := [⟨"b", .path "a"⟩, ⟨"a", .literal (.int32 2)⟩]
    Separate ab d ∧ (Expression.path "a").evaluate d = .ok (some (.int32 1)) ∧
      addFields (ab.map fragment) d = .ok [("a", .int32 2), ("b", .int32 2)] ∧
      addFields (ba.map fragment) d = .ok [("a", .int32 2), ("b", .int32 1)] ∧
      ¬ ∀ (cs : List Computed) (d : Document), Separate cs d →
        (∀ c ∈ cs, ∃ v, c.expression.evaluate d = .ok v) →
        ∃ d', addFields (cs.map fragment) d = .ok d' ∧
          ∀ c ∈ cs, c.outcome d d = .ok (d'.lookup c.name) := by
  intro d ab ba
  have hs : Separate ab d := ⟨by decide, by decide⟩
  have hok : ∀ c ∈ ab, ∃ v, c.expression.evaluate d = .ok v := by
    simp only [ab, List.forall_mem_cons]
    exact ⟨⟨_, rfl⟩, ⟨_, rfl⟩, by simp⟩
  have hrun : addFields (ab.map fragment) d = .ok [("a", .int32 2), ("b", .int32 2)] := rfl
  refine ⟨hs, rfl, hrun, rfl, fun h => ?_⟩
  obtain ⟨d', hd', hc⟩ := h ab d hs hok
  rw [hrun] at hd'
  cases hd'
  have hb : Except.ok (some (Value.int32 1)) = Except.ok (some (Value.int32 2)) :=
    hc ⟨"b", .path "a"⟩ (List.mem_cons_of_mem _ List.mem_cons_self)
  simp at hb

end DocumentDb
