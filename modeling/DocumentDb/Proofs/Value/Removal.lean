import DocumentDb.Proofs.Value.Path
import Mathlib.Data.List.Perm.Basic

/-!
# Laws of removal

What a path leads to is removed through documents only. So nothing happens where the path goes
through an array, and what is removed otherwise is one entry of one document.

**One segment** (`Assoc.alter`). A removal changes what stands under its first segment: it is gone,
or it is what the rest of the removal leaves of it (`Value.without`). Removals under two keys can be
made in any order, and two under one key are one after the other below it. All laws go down the
segments by that.

Removals commute (`Document.removePath_comm`) and are idempotent (`Document.removePath_removePath`).
The entry is not found afterwards (`Document.lookup_removePath_self`). Paths apart from it lead
where they led (`Document.lookup_removePath_of_unrelated`), and all others that do not go on from it
lead to what is left of a value (`Value.Trimmed`).
-/

namespace DocumentDb

/-! ## One key -/

namespace Assoc

variable {α : Type} {es : Assoc α} {s t key : String} {f g : α → Option α}

/-- Puts what `f` makes of the value under a key in its place, or removes the key if that is
nothing. A key that is not there stays away. -/
def alter (es : Assoc α) (key : String) (f : α → Option α) : Assoc α :=
  match es.get? key with
  | none => es
  | some v =>
    match f v with
    | none => es.erase key
    | some w => es.insert key w

theorem alter_of_get?_eq_none (h : es.get? key = none) : es.alter key f = es := by
  rw [alter, h]

theorem alter_eq_erase {v : α} (h : es.get? key = some v) (hf : f v = none) :
    es.alter key f = es.erase key := by
  simp only [alter, h, hf]

theorem alter_eq_insert {v w : α} (h : es.get? key = some v) (hf : f v = some w) :
    es.alter key f = es.insert key w := by
  simp only [alter, h, hf]

theorem get?_alter_self (es : Assoc α) (key : String) (f : α → Option α) :
    (es.alter key f).get? key = (es.get? key).bind f := by
  cases h : es.get? key with
  | none => rw [alter_of_get?_eq_none h, h, Option.bind_none]
  | some v =>
    rw [Option.bind_some]
    cases hf : f v with
    | none => rw [alter_eq_erase h hf, get?_erase_self]
    | some w => rw [alter_eq_insert h hf, get?_insert_self]

theorem get?_alter_of_ne (es : Assoc α) (f : α → Option α) (h : t ≠ s) :
    (es.alter s f).get? t = es.get? t := by
  fun_cases alter es s f with
  | case1 => rfl
  | case2 => exact get?_erase_of_ne es h
  | case3 => exact get?_insert_of_ne es _ h

theorem mem_keys_of_get? {v : α} (h : es.get? key = some v) : key ∈ es.keys :=
  List.mem_map_of_mem (mem_of_get? h)

theorem keys_alter_sublist (es : Assoc α) (key : String) (f : α → Option α) :
    (es.alter key f).keys.Sublist es.keys := by
  fun_cases alter es key f with
  | case1 => exact .refl _
  | case2 => exact (erase_sublist es key).map Prod.fst
  | case3 v hv w => rw [keys_insert, if_pos (mem_keys_of_get? hv)]

/-! Two changes, one after the other. -/

theorem erase_erase_comm (es : Assoc α) (s t : String) :
    (es.erase s).erase t = (es.erase t).erase s := by
  induction es with
  | nil => rfl
  | cons e es ih => grind [erase]

theorem erase_insert_self (es : Assoc α) (key : String) (v : α) :
    (es.insert key v).erase key = es.erase key := by
  induction es with
  | nil => simp [insert, erase]
  | cons e es ih => grind [insert, erase]

theorem erase_insert_of_ne (es : Assoc α) (h : s ≠ t) (v : α) :
    (es.insert s v).erase t = (es.erase t).insert s v := by
  induction es with
  | nil => simp [insert, erase, h]
  | cons e es ih => grind [insert, erase]

theorem alter_erase_of_ne (es : Assoc α) (h : s ≠ t) (g : α → Option α) :
    (es.erase s).alter t g = (es.alter t g).erase s := by
  have ht := get?_erase_of_ne es h.symm
  fun_cases alter es t g with
  | case1 hn => exact alter_of_get?_eq_none (ht.trans hn)
  | case2 w hw hg => rw [alter_eq_erase (ht.trans hw) hg, erase_erase_comm]
  | case3 w hw x hg => rw [alter_eq_insert (ht.trans hw) hg, erase_insert_of_ne es h.symm]

theorem alter_insert_of_ne (h : s ≠ t) (hs : s ∈ es.keys) (v : α) (g : α → Option α) :
    (es.insert s v).alter t g = (es.alter t g).insert s v := by
  have ht := get?_insert_of_ne es v h.symm
  fun_cases alter es t g with
  | case1 hn => exact alter_of_get?_eq_none (ht.trans hn)
  | case2 w hw hg => rw [alter_eq_erase (ht.trans hw) hg, erase_insert_of_ne es h]
  | case3 w hw x hg =>
    rw [alter_eq_insert (ht.trans hw) hg, insert_insert_comm h hs]

theorem alter_alter_of_ne (es : Assoc α) (h : s ≠ t) (f g : α → Option α) :
    (es.alter s f).alter t g = (es.alter t g).alter s f := by
  have hs := get?_alter_of_ne es g h
  fun_cases alter es s f with
  | case1 hn => rw [alter_of_get?_eq_none (hs.trans hn)]
  | case2 v hv hf => rw [alter_eq_erase (hs.trans hv) hf, alter_erase_of_ne es h]
  | case3 v hv w hf =>
    rw [alter_eq_insert (hs.trans hv) hf, alter_insert_of_ne h (mem_keys_of_get? hv)]

theorem alter_alter_self (es : Assoc α) (key : String) (f g : α → Option α) :
    (es.alter key f).alter key g = es.alter key fun v => (f v).bind g := by
  cases h : es.get? key with
  | none => rw [alter_of_get?_eq_none h, alter_of_get?_eq_none h, alter_of_get?_eq_none h]
  | some v =>
    cases hf : f v with
    | none =>
      rw [alter_eq_erase h hf, alter_of_get?_eq_none (get?_erase_self es key),
        alter_eq_erase h (by rw [hf, Option.bind_none])]
    | some w =>
      have hw := get?_insert_self es key w
      rw [alter_eq_insert h hf]
      cases hg : g w with
      | none =>
        rw [alter_eq_erase hw hg, erase_insert_self,
          alter_eq_erase h (by rw [hf, Option.bind_some, hg])]
      | some x =>
        rw [alter_eq_insert hw hg, insert_insert,
          alter_eq_insert h (by rw [hf, Option.bind_some, hg])]

end Assoc

/-! ## A row of segments -/

namespace Value

/-- What is left of a value when what some segments lead to is removed: nothing, if they lead to the
value itself. -/
def without : List String → Value → Option Value
  | [], _ => none
  | s :: ss, document es => some (document (Assoc.alter es s (without ss)))
  | _ :: _, v => some v

theorem without_comm (v : Value) (ss ts : List String) :
    (v.without ss).bind (·.without ts) = (v.without ts).bind (·.without ss) := by
  induction ss generalizing v ts with
  | nil => cases v.without ts <;> rfl
  | cons s ss ih =>
    cases ts with
    | nil => cases v.without (s :: ss) <;> rfl
    | cons t ts =>
      cases v with
      | document es =>
        simp only [without, Option.bind_some]
        by_cases h : s = t
        · subst h
          simp only [Assoc.alter_alter_self, ih _ ts]
        · rw [Assoc.alter_alter_of_ne es h]
      | _ => rfl

theorem without_without (v : Value) (ss : List String) :
    (v.without ss).bind (·.without ss) = v.without ss := by
  induction ss generalizing v with
  | nil => rfl
  | cons s ss ih =>
    cases v with
    | document es => simp only [without, Option.bind_some, Assoc.alter_alter_self, ih]
    | _ => rfl

theorem resolve_alter_self (es : Document) (s : String) (ss ts : List String) :
    (document (Assoc.alter es s (without ss))).resolve (s :: ts) =
      (es.get? s).bind fun v => (v.without ss).bind (·.resolve ts) := by
  rw [resolve, Assoc.get?_alter_self, Option.bind_assoc]

theorem resolve_alter_of_ne (es : Document) {s t : String} (h : t ≠ s) (ss ts : List String) :
    (document (Assoc.alter es s (without ss))).resolve (t :: ts) =
      (document es).resolve (t :: ts) := by
  rw [resolve, Assoc.get?_alter_of_ne es _ h, resolve]

/-- **The frame.** Segments apart lead where they led. -/
theorem resolve_without_of_apart {ss ts : List String} (h : Path.Apart ss ts) (v : Value) :
    (v.without ss).bind (·.resolve ts) = v.resolve ts := by
  induction ss generalizing v ts with
  | nil => exact (Path.not_nil_apart ts h).elim
  | cons s ss ih =>
    cases ts with
    | nil => exact (Path.not_apart_nil _ h).elim
    | cons t ts =>
      cases v with
      | document es =>
        rw [without, Option.bind_some]
        by_cases hst : t = s
        · subst hst
          have hss : Path.Apart ss ts := (Path.apart_cons_cons.1 h).resolve_left fun hne => hne rfl
          rw [resolve_alter_self, resolve]
          simp only [ih hss]
        · exact resolve_alter_of_ne es hst ss ts
      | _ => rfl

/-- The second value is the first one, or both are documents and the second one has some of the keys
of the first one, in their order. -/
inductive Trimmed : Value → Value → Prop
  | refl (v : Value) : Trimmed v v
  | document {es fs : Document} (keys : fs.keys.Sublist es.keys) :
      Trimmed (.document es) (.document fs)

theorem Trimmed.trans {u v w : Value} (h : Trimmed u v) (h' : Trimmed v w) : Trimmed u w := by
  cases h with
  | refl => exact h'
  | document hk =>
    cases h' with
    | refl => exact .document hk
    | document hk' => exact .document (hk'.trans hk)

/-- Whatever segments lead to afterwards is left of what they led to. -/
theorem exists_trimmed_of_resolve_without {ss ts : List String} {v w : Value}
    (h : (v.without ss).bind (·.resolve ts) = some w) :
    ∃ u, v.resolve ts = some u ∧ Trimmed u w := by
  induction ss generalizing v ts with
  | nil => cases h
  | cons s ss ih =>
    cases v with
    | document es =>
      rw [without, Option.bind_some] at h
      cases ts with
      | nil =>
        cases h
        exact ⟨_, rfl, .document (Assoc.keys_alter_sublist es s _)⟩
      | cons t ts =>
        by_cases hst : t = s
        · subst hst
          rw [resolve_alter_self] at h
          obtain ⟨x, hx, h⟩ := Option.bind_eq_some_iff.1 h
          obtain ⟨u, hu, huw⟩ := ih h
          exact ⟨u, by rw [resolve, hx, Option.bind_some, hu], huw⟩
        · rw [resolve_alter_of_ne es hst] at h
          exact ⟨w, h, .refl w⟩
    | _ => exact ⟨w, h, .refl w⟩

/-- Segments that do not go on from the removed ones lead somewhere if they did. -/
theorem exists_resolve_without {ss ts : List String} (h : ¬ ss <+: ts) {v u : Value}
    (hu : v.resolve ts = some u) : ∃ w, (v.without ss).bind (·.resolve ts) = some w := by
  induction ss generalizing v ts with
  | nil => exact (h List.nil_prefix).elim
  | cons s ss ih =>
    cases v with
    | document es =>
      rw [without, Option.bind_some]
      cases ts with
      | nil => exact ⟨_, rfl⟩
      | cons t ts =>
        by_cases hst : t = s
        · subst hst
          rw [resolve] at hu
          obtain ⟨x, hx, hu⟩ := Option.bind_eq_some_iff.1 hu
          obtain ⟨w, hw⟩ := ih (fun hss => h (List.cons_prefix_cons.2 ⟨rfl, hss⟩)) hu
          exact ⟨w, by rw [resolve_alter_self, hx, Option.bind_some, hw]⟩
        · exact ⟨u, (resolve_alter_of_ne es hst ss ts).trans hu⟩
    | _ => exact ⟨u, hu⟩

end Value

/-! ## Paths of a document -/

namespace Document

open Value (Trimmed)

variable {d : Document} {p q path : String}

theorem removeSegments_of_document {s : String} {es : Document}
    (h : d.get? s = some (.document es)) (t : String) (ss : List String) :
    removeSegments d (s :: t :: ss) =
      d.insert s (.document (removeSegments es (t :: ss))) := by
  rw [removeSegments, h]
  simp

theorem removeSegments_of_not_document {s : String} (h : ∀ es, d.get? s ≠ some (.document es))
    (t : String) (ss : List String) : removeSegments d (s :: t :: ss) = d := by
  rw [removeSegments]
  · split
    · next es hs => exact (h es hs).elim
    · rfl
  · simp

theorem documentAt_of_not_document {s : String} (h : ∀ es, d.get? s ≠ some (.document es)) :
    d.documentAt s = [] := by
  rw [documentAt]
  split
  · next es hs => exact (h es hs).elim
  · rfl

theorem removeSegments_cons (d : Document) (s : String) (ss : List String) :
    removeSegments d (s :: ss) = Assoc.alter d s (Value.without ss) := by
  induction ss generalizing d s with
  | nil =>
    rw [removeSegments]
    cases h : d.get? s with
    | none => rw [Assoc.alter_of_get?_eq_none h, Assoc.erase_eq_self h]
    | some v => rw [Assoc.alter_eq_erase h rfl]
  | cons t ss ih =>
    cases h : d.get? s with
    | none =>
      rw [removeSegments_of_not_document (by simp [h]), Assoc.alter_of_get?_eq_none h]
    | some v =>
      cases v with
      | document es =>
        have hes : Value.without (t :: ss) (.document es) =
          some (.document (removeSegments es (t :: ss))) := by rw [ih, Value.without]
        rw [removeSegments_of_document h, Assoc.alter_eq_insert h hes]
      | _ =>
        rw [removeSegments_of_not_document (by simp [h]),
          Assoc.alter_eq_insert (f := Value.without (t :: ss)) h rfl, Assoc.insert_eq_self h]

/-- A removal from a document is one from a value. -/
theorem without_document (d : Document) (path : String) :
    (Value.document d).without (Path.segments path) = some (.document (d.removePath path)) := by
  obtain ⟨s, ss, h⟩ := Path.exists_segments_eq_cons path
  rw [removePath, h, removeSegments_cons, Value.without]

theorem resolve_segments (d : Document) (path : String) :
    (Value.document d).resolve (Path.segments path) = d.lookup path := by
  obtain ⟨s, ss, h⟩ := Path.exists_segments_eq_cons path
  rw [lookup, h, resolve_document]

theorem resolve_without_document (d : Document) (p q : String) :
    ((Value.document d).without (Path.segments p)).bind (·.resolve (Path.segments q)) =
      (d.removePath p).lookup q := by
  rw [without_document, Option.bind_some, resolve_segments]

theorem removePath_comm (d : Document) (p q : String) :
    (d.removePath p).removePath q = (d.removePath q).removePath p := by
  have h := Value.without_comm (.document d) (Path.segments p) (Path.segments q)
  simpa only [without_document, Option.bind_some, Option.some.injEq, Value.document.injEq] using h

theorem removePath_removePath (d : Document) (path : String) :
    (d.removePath path).removePath path = d.removePath path := by
  have h := Value.without_without (.document d) (Path.segments path)
  simpa only [without_document, Option.bind_some, Option.some.injEq, Value.document.injEq] using h

theorem lookup_removePath_of_unrelated (h : Path.Unrelated p q) (d : Document) :
    (d.removePath p).lookup q = d.lookup q := by
  rw [← resolve_without_document, Value.resolve_without_of_apart h, resolve_segments]

theorem exists_trimmed_of_lookup_removePath {w : Value} (h : (d.removePath p).lookup q = some w) :
    ∃ v, d.lookup q = some v ∧ Trimmed v w := by
  rw [← resolve_without_document] at h
  rw [← resolve_segments]
  exact Value.exists_trimmed_of_resolve_without h

theorem keys_removePath_sublist (d : Document) (path : String) :
    (d.removePath path).keys.Sublist d.keys := by
  obtain ⟨s, ss, h⟩ := Path.exists_segments_eq_cons path
  rw [removePath, h, removeSegments_cons]
  exact Assoc.keys_alter_sublist d s _

theorem lookup_removePath_isSome (h : ¬ Path.segments p <+: Path.segments q)
    (hd : (d.lookup q).isSome = true) : ((d.removePath p).lookup q).isSome = true := by
  obtain ⟨u, hu⟩ := Option.isSome_iff_exists.1 hd
  rw [← resolve_segments] at hu
  rw [← resolve_without_document, Option.isSome_iff_exists]
  exact Value.exists_resolve_without h hu

theorem resolve_removeSegments_self {ss : List String} (h : d.ThroughNoArray ss) :
    (removeSegments d ss).resolve ss = none := by
  induction ss generalizing d with
  | nil => rfl
  | cons s ss ih =>
    cases ss with
    | nil => rw [removeSegments, resolve, Assoc.get?_erase_self, Option.bind_none]
    | cons t ss =>
      rw [throughNoArray_cons_cons] at h
      by_cases hs : ∃ es, d.get? s = some (.document es)
      · obtain ⟨es, hs⟩ := hs
        have hes : d.documentAt s = es := by rw [documentAt, hs]
        rw [removeSegments_of_document hs, resolve, Assoc.get?_insert_self, Option.bind_some,
          resolve_document]
        exact ih (hes ▸ h.2)
      · -- Nothing is removed, since the segment leads to no document, and to no array either.
        rw [not_exists] at hs
        rw [removeSegments_of_not_document hs, resolve_cons_cons t ss h.1,
          documentAt_of_not_document hs, resolve_nil_left]

/-- What a path through no array leads to is gone. -/
theorem lookup_removePath_self (h : d.ThroughNoArray (Path.segments path)) :
    (d.removePath path).lookup path = none :=
  resolve_removeSegments_self h

end Document

end DocumentDb
