import DocumentDb.Proofs.Value.Path
import Mathlib.Data.List.Perm.Basic

/-!
# Documents in another order

Documents remember the order in which their keys first came, so putting two values in one order or
the other may leave two different documents.

**Rearranged** (`Value.Rearranged`). Two values hold the same up to the order of the keys in their
documents, at any depth under keys; arrays are the same altogether.

Rearranged documents stay so if the same value is put at the same path of both
(`Rearranged.setSegments`), and values put at paths apart leave rearranged documents in whatever
order they are put (`Document.rearranged_setSegments_comm`).
-/

namespace DocumentDb

namespace Value

/-- Two values differ at most in the order of the keys of documents. -/
inductive Rearranged : Value → Value → Prop
  | refl (v : Value) : Rearranged v v
  | document {es fs : Document} (keys : es.keys.Perm fs.keys)
      (entries : ∀ k v w, es.get? k = some v → fs.get? k = some w → Rearranged v w) :
      Rearranged (.document es) (.document fs)

namespace Rearranged

variable {d e : Document} {v w : Value}

theorem keys (h : Rearranged (.document d) (.document e)) : d.keys.Perm e.keys := by
  cases h with
  | refl => exact .refl _
  | document hk _ => exact hk

theorem entries (h : Rearranged (.document d) (.document e)) {k : String}
    (hv : d.get? k = some v) (hw : e.get? k = some w) : Rearranged v w := by
  cases h with
  | refl =>
    rw [hv] at hw
    cases hw
    exact .refl v
  | document _ he => exact he k v w hv hw

theorem get?_eq_none_iff (h : Rearranged (.document d) (.document e)) (k : String) :
    d.get? k = none ↔ e.get? k = none := by
  rw [Assoc.get?_eq_none_iff, Assoc.get?_eq_none_iff, h.keys.mem_iff]

theorem trans {u : Value} (h : Rearranged v w) (h' : Rearranged w u) : Rearranged v u := by
  induction h generalizing u with
  | refl => exact h'
  | @document es fs hk he ih =>
    cases h' with
    | refl => exact .document hk he
    | @document _ gs hk' he' =>
      refine .document (hk.trans hk') fun k x z hx hz => ?_
      obtain ⟨y, hy⟩ : ∃ y, fs.get? k = some y := by
        rw [← Option.ne_none_iff_exists', Ne, Assoc.get?_eq_none_iff, hk'.mem_iff,
          ← Assoc.get?_eq_none_iff, hz]
        simp
      exact ih k x y hx hy (he' k y z hy hz)

/-- Putting rearranged values under one key leaves the documents rearranged. -/
theorem insert (h : Rearranged (.document d) (.document e)) (hv : Rearranged v w) (key : String) :
    Rearranged (.document (d.insert key v)) (.document (e.insert key w)) := by
  refine .document ?_ fun k x y hx hy => ?_
  · rw [Assoc.keys_insert, Assoc.keys_insert]
    by_cases hd : key ∈ d.keys
    · rw [if_pos hd, if_pos (h.keys.mem_iff.1 hd)]
      exact h.keys
    · rw [if_neg hd, if_neg (fun he => hd (h.keys.mem_iff.2 he))]
      exact h.keys.append_right [key]
  · by_cases hk : k = key
    · subst hk
      rw [Assoc.get?_insert_self] at hx hy
      cases hx
      cases hy
      exact hv
    · rw [Assoc.get?_insert_of_ne _ _ hk] at hx hy
      exact h.entries hx hy

theorem documentAt (h : Rearranged (.document d) (.document e)) (key : String) :
    Rearranged (.document (d.documentAt key)) (.document (e.documentAt key)) := by
  have hnone := h.get?_eq_none_iff key
  rw [Document.documentAt, Document.documentAt]
  cases hd : d.get? key with
  | none =>
    rw [hnone.1 hd]
    exact .refl _
  | some x =>
    cases he : e.get? key with
    | none => rw [hnone.2 he] at hd; cases hd
    | some y =>
      have hxy := h.entries hd he
      cases hxy with
      | refl => exact .refl _
      | document hk hv => exact .document hk hv

theorem setSegments (h : Rearranged (.document d) (.document e)) (v : Value) (ss : List String) :
    Rearranged (.document (Document.setSegments v d ss))
      (.document (Document.setSegments v e ss)) := by
  induction ss generalizing d e with
  | nil => exact h
  | cons s ss ih =>
    cases ss with
    | nil => exact h.insert (.refl v) s
    | cons t ss => exact h.insert (ih (h.documentAt s)) s

end Rearranged

end Value

namespace Document

open Value (Rearranged)

variable {d : Document}

theorem get?_insert_comm (d : Document) {s t : String} (h : s ≠ t) (v w : Value) (k : String) :
    ((d.insert s v).insert t w).get? k = ((d.insert t w).insert s v).get? k := by
  by_cases hs : k = s
  · subst hs
    rw [Assoc.get?_insert_of_ne _ _ h, Assoc.get?_insert_self, Assoc.get?_insert_self]
  · by_cases ht : k = t
    · subst ht
      rw [Assoc.get?_insert_self, Assoc.get?_insert_of_ne _ _ hs, Assoc.get?_insert_self]
    · simp only [Assoc.get?_insert_of_ne _ _ hs, Assoc.get?_insert_of_ne _ _ ht]

theorem rearranged_insert_comm (d : Document) {s t : String} (h : s ≠ t) (v w : Value) :
    Rearranged (.document ((d.insert s v).insert t w))
      (.document ((d.insert t w).insert s v)) := by
  refine .document ?_ fun k x y hx hy => ?_
  · by_cases hs : s ∈ d.keys <;> by_cases ht : t ∈ d.keys <;>
      simp [Assoc.keys_insert, hs, ht, h, h.symm, List.perm_append_left_iff, List.Perm.swap]
  · rw [get?_insert_comm d h, hy] at hx
    cases hx
    exact .refl _

/-- **Values put at paths apart** may be put in any order. -/
theorem rearranged_setSegments_comm {ss ts : List String} (h : Path.Apart ss ts) (v w : Value)
    (d : Document) :
    Rearranged (.document (setSegments w (setSegments v d ss) ts))
      (.document (setSegments v (setSegments w d ts) ss)) := by
  induction h using Path.Apart.induct generalizing d with
  | parted s t ss ts hst =>
    obtain ⟨x, hx⟩ := exists_setSegments_eq_insert v d s ss
    obtain ⟨y, hy⟩ := exists_setSegments_eq_insert w d t ts
    rw [hx d rfl, hy d rfl, hx _ (Assoc.get?_insert_of_ne d y hst),
      hy _ (Assoc.get?_insert_of_ne d x hst.symm)]
    exact rearranged_insert_comm d hst x y
  | shared s t u ss ts _ ih =>
    simp only [setSegments_cons_cons, documentAt_insert_self, Assoc.insert_insert]
    exact Rearranged.insert (.refl _) (ih (d.documentAt s)) s

end Document

end DocumentDb
