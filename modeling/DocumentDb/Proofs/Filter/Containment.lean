import DocumentDb.Field
import DocumentDb.Proofs.Filter.Inclusive
import DocumentDb.Proofs.Value.Path

/-!
# Items of array fields

The filter that asks an array field for an item is an equality. Equality asks the items of the
field, as it should here, and takes an array operand also for the whole of the field.

**Finding an item** (`Field.FindsItem`). On a document the filter holds exactly if an item of the
array in the field is alike to what is stored of the one asked for.

**Theorem (`contains_findsItem_iff`).** The filter finds the item in an array exactly if the array
as a whole is not alike to it. So an item that is not stored as an array is found in all documents,
and each one that is stored as an array is mistaken for the whole of some field. Where all items of
the field are arrays, only the empty array is mistaken, and only for the field without items.
-/

namespace DocumentDb

namespace Value

variable {items us : List Value} {v : Value}

/-- An array alike to a value has no item alike to it. -/
theorem any_alike_eq_false_of_alike (h : (array items).alike v = true) :
    items.any (·.alike v) = false := by
  rw [List.any_eq_false]
  intro w hw
  have hd : w.depth < v.depth := by
    rw [← depth_eq_of_alike h]
    exact Nat.lt_succ_of_le (depth_le_itemsDepth hw)
  rw [alike_comm, alike_eq_false_of_depth_lt hd]
  exact Bool.false_ne_true

theorem items?_isSome_of_alike {w : Value} (h : v.alike w = true) (hv : v.items?.isSome = true) :
    w.items?.isSome = true := by
  have ho : v.order w = .eq := by simpa [alike] using h
  have hb : v.bracket = w.bracket := by simpa [sameBracket] using sameBracket_of_order_eq ho
  cases v with
  | array xs =>
    obtain ⟨ys, rfl⟩ := eq_array_of_bracket hb.symm
    rfl
  | _ => cases hv

/-- An array of arrays and an array without arrays are alike only if both are empty. -/
theorem alike_array_iff_of_rows (hi : ∀ w ∈ items, w.items?.isSome = true)
    (hu : ∀ u ∈ us, u.items? = none) :
    (array items).alike (array us) = true ↔ items = [] ∧ us = [] := by
  cases items with
  | nil => cases us <;> simp [alike, order, orderItems]
  | cons w items =>
    refine iff_of_false (fun h => ?_) (by simp)
    cases us with
    | nil => simp [alike, order, orderItems] at h
    | cons u us =>
      have hwu : w.alike u = true := by
        rw [alike, beq_iff_eq, order, orderItems, Ordering.then_eq_eq] at h
        simp [alike, h.1]
      have hsome := items?_isSome_of_alike hwu (hi w List.mem_cons_self)
      rw [hu u List.mem_cons_self] at hsome
      cases hsome

end Value

namespace Field

variable {α : Type} [Encode α] {f : Field (List α)} {a : α} {v : Value} {d : Document}
  {items : List Value}

/-- The filter for an item holds of a document exactly if one of the items in the field is alike to
the value that is stored of it. -/
def FindsItem (f : Field (List α)) (a : α) (v : Value) (d : Document) (items : List Value) : Prop :=
  (f.contains a).holds d = .ok true ↔ ∃ w ∈ items, w.alike v = true

/-- On an array field the filter asks for the array as a whole, if an array is asked for, and for an
item. -/
theorem holds_contains (ha : encode a = .ok v) (hd : d.lookup f.name = some (.array items)) :
    (f.contains a).holds d =
      .ok ((v.items?.isSome && (Value.array items).alike v) || items.any (·.alike v)) := by
  rw [contains, compareWith, ha]
  show Filter.comparisonHolds f.name .eq (d.lookup f.name) v = _
  rw [hd]
  rfl

theorem items?_isSome_and_alike (items : List Value) (v : Value) :
    (v.items?.isSome && (Value.array items).alike v) = (Value.array items).alike v := by
  cases h : (Value.array items).alike v with
  | false => rw [Bool.and_false]
  | true => rw [Value.items?_isSome_of_alike h rfl, Bool.true_and]

theorem findsItem_iff (ha : encode a = .ok v) (hd : d.lookup f.name = some (.array items)) :
    f.FindsItem a v d items ↔ (Value.array items).alike v = false := by
  rw [FindsItem, holds_contains ha hd, items?_isSome_and_alike, ← List.any_eq_true]
  cases h : (Value.array items).alike v with
  | false => simp
  | true => simp [Value.any_alike_eq_false_of_alike h]

/-- **The filter for an item finds it** exactly if the array as a whole is not alike to it. Items
that are not stored as arrays are found in all documents, and no others. -/
theorem contains_findsItem_iff (f : Field (List α)) (ha : encode a = .ok v) :
    (∀ d items, d.lookup f.name = some (.array items) →
      (∃ b, (f.contains a).holds d = .ok b) ∧
        (f.FindsItem a v d items ↔ (Value.array items).alike v = false)) ∧
    ((∀ d items, d.lookup f.name = some (.array items) → f.FindsItem a v d items) ↔
      v.items? = none) ∧
    ∀ us, v = .array us → (∀ u ∈ us, u.items? = none) →
      ∀ d items, d.lookup f.name = some (.array items) → (∀ w ∈ items, w.items?.isSome = true) →
        (f.FindsItem a v d items ↔ ¬ (items = [] ∧ us = [])) := by
  refine ⟨fun d items hd => ⟨⟨_, holds_contains ha hd⟩, findsItem_iff ha hd⟩, ⟨fun h => ?_, ?_⟩, ?_⟩
  · -- The document with the stored item in the place of the whole field.
    cases v with
    | array us =>
      have hd := Document.lookup_setPath [] f.name (.array us)
      have hself := (findsItem_iff ha hd).1 (h _ us hd)
      rw [Value.alike_self] at hself
      cases hself
    | _ => rfl
  · intro hv d items hd
    rw [findsItem_iff ha hd, ← items?_isSome_and_alike, hv]
    rfl
  · rintro us rfl hu d items hd hi
    rw [findsItem_iff ha hd, ← Value.alike_array_iff_of_rows hi hu, Bool.not_eq_true]

/-- A row of two in an array of rows, and the empty row in an array that has it. -/
theorem contains_findsItem_iff_of_rows :
    let f : Field (List (List Int32)) := ⟨"m.rows"⟩
    let rows : List Value := [.array [.int32 1, .int32 2], .array []]
    let d : Document := [("m", .document [("rows", .array rows)])]
    encode [(1 : Int32), 2] = Except.ok (.array [.int32 1, .int32 2]) ∧
      d.lookup f.name = some (.array rows) ∧
      f.FindsItem [1, 2] (.array [.int32 1, .int32 2]) d rows ∧
      f.FindsItem [] (.array []) d rows ∧
      ¬ ∀ d items, d.lookup f.name = some (.array items) → f.FindsItem [] (.array []) d items := by
  intro f rows d
  have henc : encode [(1 : Int32), 2] = Except.ok (.array [.int32 1, .int32 2]) := rfl
  have hnil : encode ([] : List Int32) = Except.ok (.array []) := rfl
  have hd : d.lookup "m.rows" = some (.array rows) := rfl
  obtain ⟨hone, -, -⟩ := contains_findsItem_iff f henc
  obtain ⟨hempty, hall, -⟩ := contains_findsItem_iff f hnil
  refine ⟨henc, hd, (hone d rows hd).2.2 rfl, (hempty d rows hd).2.2 rfl, fun h => ?_⟩
  cases hall.1 h

/-- The empty row is said to be in the array without rows. -/
theorem contains_mistakes_whole :
    let f : Field (List (List Int32)) := ⟨"rows"⟩
    let d := Document.single "rows" (.array [])
    encode ([] : List Int32) = Except.ok (.array []) ∧ d.lookup f.name = some (.array []) ∧
      (f.contains []).holds d = .ok true ∧
      ¬ ∀ (α : Type) [Encode α] (f : Field (List α)) (a : α) (v : Value) (d : Document)
        (items : List Value), encode a = .ok v → d.lookup f.name = some (.array items) →
          f.FindsItem a v d items := by
  intro f d
  have henc : encode ([] : List Int32) = Except.ok (.array []) := rfl
  have hd : d.lookup "rows" = some (.array []) := rfl
  have hrun : (f.contains []).holds d = .ok true := holds_contains henc hd
  refine ⟨henc, hd, hrun, fun h => ?_⟩
  obtain ⟨w, hw, -⟩ := (h _ f [] _ d [] henc hd).1 hrun
  cases hw

end Field

end DocumentDb
