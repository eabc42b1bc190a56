import DocumentDb.Pipeline.Run
import DocumentDb.Proofs.Value.Path
import Mathlib.Data.List.Forall2

/-!
# Unwound documents

Unwinding looks an array up at a path and puts each of its items in the place of the array. The
look-up takes numerals for places in arrays, where the putting takes every segment for a key. So an
array on the way to the unwound one gives place to a document, and what else it holds is lost.

**What becomes of a document** (`Unwound`). Nothing, itself, or one document for each item with the
item at the path, by what the path leads to.

**Theorem (`unwind_keeps_rest_iff`).** The stage puts what the documents become one after the other.
What a document becomes has everything beside the path as the document has it, exactly if the path
does not lead through an array to another one with items.
-/

namespace DocumentDb

/-- What unwinding a path should make of a document: nothing if the path leads to nothing or to
null, one document for each item of an array, with the item at the path, and the document itself
in all other cases. -/
inductive Unwound (path : String) (d : Document) : List Document → Prop
  | missing (h : d.lookup path = none) : Unwound path d []
  | null (h : d.lookup path = some .null) : Unwound path d []
  | items {items : List Value} {ds : List Document} (h : d.lookup path = some (.array items))
      (hs : List.Forall₂ (fun item e => e.lookup path = some item) items ds) : Unwound path d ds
  | other {v : Value} (h : d.lookup path = some v) (hn : v ≠ .null) (ha : v.items? = none) :
      Unwound path d [d]

theorem unwound_unwind (path : String) (d : Document) : Unwound path d (unwind path d) := by
  fun_cases unwind path d with
  | case1 h => exact .missing h
  | case2 h => exact .null h
  | case3 items h =>
    refine .items h (List.forall₂_map_right_iff.2 (List.forall₂_same.2 fun item _ => ?_))
    exact Document.lookup_setPath d path item
  | case4 v hn ha h =>
    refine .other h (fun hv => hn hv) ?_
    cases v with
    | array items => exact (ha items rfl).elim
    | _ => rfl

/-- The documents that unwinding makes of one keep the rest exactly if no array with items is
reached through another array. -/
theorem sameBeside_unwind_iff (path : String) (d : Document) :
    (∀ e ∈ unwind path d, Document.SameBeside path d e) ↔
      ∀ item items, d.lookup path = some (.array (item :: items)) →
        d.ThroughNoArray (Path.segments path) := by
  fun_cases unwind path d with
  | case1 h | case2 h => simp [h]
  | case3 items h =>
    simp only [List.forall_mem_map, Document.sameBeside_setPath_iff h]
    cases items <;> simp_all
  | case4 v hn ha h =>
    rw [List.forall_mem_singleton]
    refine iff_of_true (fun _ _ => rfl) fun item items hv => ?_
    exact (ha (item :: items) (Option.some.inj (h.symm.trans hv))).elim

/-- **Unwinding.** The stage puts what each document becomes one after the other, and a document
loses nothing beside the path exactly if no array with items is reached through another array. -/
theorem unwind_keeps_rest_iff (shuffle : Shuffle) (path : String) (docs : List Document) :
    ∃ parts : List (List Document),
      (Stage.unwind path).run shuffle docs = .ok parts.flatten ∧
      List.Forall₂ (Unwound path) docs parts ∧
      List.Forall₂ (fun d ds => (∀ e ∈ ds, Document.SameBeside path d e) ↔
        ∀ item items, d.lookup path = some (.array (item :: items)) →
          d.ThroughNoArray (Path.segments path)) docs parts := by
  refine ⟨docs.map (unwind path), congrArg Except.ok (List.flatMap_def ..), ?_, ?_⟩
  · exact List.forall₂_map_right_iff.2 (List.forall₂_same.2 fun d _ => unwound_unwind path d)
  · exact List.forall₂_map_right_iff.2 (List.forall₂_same.2 fun d _ => sameBeside_unwind_iff path d)

/-- The second item of an array is lost when the first one is unwound. -/
theorem unwind_loses_next_item :
    let d : Document := [("a", .array [.array [.int32 1, .int32 2], .int32 5])]
    unwind "a.0" d = [[("a", .document [("0", .int32 1)])], [("a", .document [("0", .int32 2)])]] ∧
      Path.Unrelated "a.0" "a.1" ∧ d.lookup "a.1" = some (.int32 5) ∧
      ¬ ∀ path d, ∀ e ∈ unwind path d, Document.SameBeside path d e := by
  intro d
  have hrun : unwind "a.0" d =
      [[("a", .document [("0", .int32 1)])], [("a", .document [("0", .int32 2)])]] := rfl
  have hp : Path.Unrelated "a.0" "a.1" := by decide
  have hd : d.lookup "a.1" = some (.int32 5) := rfl
  refine ⟨hrun, hp, hd, fun h => ?_⟩
  have hother := h "a.0" d _ (hrun ▸ List.mem_cons_self) "a.1" hp
  rw [hd] at hother
  cases hother

end DocumentDb
