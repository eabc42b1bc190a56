/-!
# Insertion-ordered maps

An `Assoc α` maps texts to values of `α` and remembers the order in which its keys first came.
Documents, the table of collections and the table of monitors are all of this kind.

**Order.** `insert` replaces a value where its key already stands and puts a new key last, and
`erase` leaves the order of the remaining keys alone. So the keys stand in the order of their
first insertion, whatever happens to their values later.
-/

namespace DocumentDb

/-- An insertion-ordered map from texts, given by its entries. -/
abbrev Assoc (α : Type) := List (String × α)

namespace Assoc

variable {α : Type}

/-- The value under `key`, if there is one. -/
def get? : Assoc α → String → Option α
  | [], _ => none
  | (k, v) :: es, key => if k = key then some v else get? es key

/-- Whether there is an entry under `key`. -/
def contains (es : Assoc α) (key : String) : Bool :=
  (es.get? key).isSome

/-- Puts `v` under `key`: in place when the key is there, last otherwise. -/
def insert : Assoc α → String → α → Assoc α
  | [], key, v => [(key, v)]
  | (k, w) :: es, key, v => if k = key then (k, v) :: es else (k, w) :: insert es key v

/-- Removes what stands under `key`. -/
def erase : Assoc α → String → Assoc α
  | [], _ => []
  | (k, v) :: es, key => if k = key then erase es key else (k, v) :: erase es key

/-- The keys, in order. -/
def keys (es : Assoc α) : List String :=
  es.map Prod.fst

/-- The map holding `entries` put one after the other: of a repeated key the first place and the
last value count. -/
def ofList (entries : List (String × α)) : Assoc α :=
  entries.foldl (fun es e => es.insert e.1 e.2) []

/-! ## What each operation does to a look-up -/

@[simp] theorem get?_nil (key : String) : get? ([] : Assoc α) key = none := rfl

theorem get?_insert_self (es : Assoc α) (key : String) (v : α) :
    (es.insert key v).get? key = some v := by
  induction es with
  | nil => simp [insert, get?]
  | cons e es ih => by_cases h : e.1 = key <;> simp [insert, get?, h, ih]

theorem get?_insert_of_ne (es : Assoc α) {key other : String} (v : α) (h : other ≠ key) :
    (es.insert key v).get? other = es.get? other := by
  induction es with
  | nil => simp [insert, get?, Ne.symm h]
  | cons e es ih => grind [insert, get?]

theorem insert_insert (es : Assoc α) (key : String) (v w : α) :
    (es.insert key v).insert key w = es.insert key w := by
  induction es with
  | nil => simp [insert]
  | cons e es ih => grind [insert]

/-- Putting what is there already changes nothing. -/
theorem insert_eq_self {es : Assoc α} {key : String} {v : α} (h : es.get? key = some v) :
    es.insert key v = es := by
  induction es with
  | nil => cases h
  | cons e es ih => grind [insert, get?]

theorem get?_erase_self (es : Assoc α) (key : String) : (es.erase key).get? key = none := by
  induction es with
  | nil => rfl
  | cons e es ih => grind [erase, get?]

theorem get?_erase_of_ne (es : Assoc α) {key other : String} (h : other ≠ key) :
    (es.erase key).get? other = es.get? other := by
  induction es with
  | nil => rfl
  | cons e es ih => grind [erase, get?]

/-- Removing what is not there changes nothing. -/
theorem erase_eq_self {es : Assoc α} {key : String} (h : es.get? key = none) :
    es.erase key = es := by
  induction es with
  | nil => rfl
  | cons e es ih => grind [erase, get?]

theorem get?_append_of_not_mem {es : Assoc α} {key : String} (h : key ∉ es.keys) (fs : Assoc α) :
    get? (es ++ fs) key = fs.get? key := by
  induction es with
  | nil => rfl
  | cons e es ih => grind [get?, keys]

theorem get?_append_of_mem {es : Assoc α} {key : String} (h : key ∈ es.keys) (fs : Assoc α) :
    get? (es ++ fs) key = es.get? key := by
  induction es with
  | nil => cases h
  | cons e es ih => grind [get?, keys]

/-- Where no key is there twice, every entry is the one that its key leads to. -/
theorem get?_of_mem {es : Assoc α} (hk : es.keys.Nodup) {e : String × α} (he : e ∈ es) :
    es.get? e.1 = some e.2 := by
  induction es with
  | nil => cases he
  | cons e' es ih =>
    obtain ⟨hn, hk⟩ := List.nodup_cons.1 hk
    rcases List.mem_cons.1 he with rfl | he
    · rw [get?, if_pos rfl]
    · have hne : e'.1 ≠ e.1 := fun h => hn (h ▸ List.mem_map_of_mem he)
      rw [get?, if_neg hne]
      exact ih hk he

theorem mem_of_get? {es : Assoc α} {key : String} {v : α} (h : es.get? key = some v) :
    (key, v) ∈ es := by
  induction es with
  | nil => cases h
  | cons e es ih => grind [get?]

theorem get?_eq_some_iff {es : Assoc α} (hk : es.keys.Nodup) {key : String} {v : α} :
    es.get? key = some v ↔ (key, v) ∈ es :=
  ⟨mem_of_get?, get?_of_mem hk⟩

/-- Where no key is there twice, the order of the entries tells nothing to a look-up. -/
theorem get?_of_perm {es fs : Assoc α} (hp : es.Perm fs) (hk : es.keys.Nodup) (key : String) :
    es.get? key = fs.get? key := by
  have hf : fs.keys.Nodup := (hp.map Prod.fst).nodup_iff.1 hk
  refine Option.ext fun v => ?_
  rw [get?_eq_some_iff hk, get?_eq_some_iff hf, hp.mem_iff]

theorem get?_eq_none_iff {es : Assoc α} {key : String} : es.get? key = none ↔ key ∉ es.keys := by
  induction es with
  | nil => simp [keys]
  | cons e es ih => grind [get?, keys]

/-! ## What putting does to the keys -/

/-- A new key goes last. -/
theorem insert_of_not_mem {es : Assoc α} {key : String} (h : key ∉ es.keys) (v : α) :
    es.insert key v = es ++ [(key, v)] := by
  induction es with
  | nil => rfl
  | cons e es ih => grind [insert, keys]

/-- The keys stay as they are if the key is one of them. -/
theorem keys_insert (es : Assoc α) (key : String) (v : α) :
    (es.insert key v).keys = if key ∈ es.keys then es.keys else es.keys ++ [key] := by
  induction es with
  | nil => simp [insert, keys]
  | cons e es ih => grind [insert, keys]

theorem mem_keys_insert {es : Assoc α} {key other : String} {v : α} :
    other ∈ (es.insert key v).keys ↔ other = key ∨ other ∈ es.keys := by
  induction es with
  | nil => simp [insert, keys]
  | cons e es ih => grind [insert, keys]

theorem nodup_keys_insert {es : Assoc α} (h : es.keys.Nodup) (key : String) (v : α) :
    (es.insert key v).keys.Nodup := by
  induction es with
  | nil => simp [insert, keys]
  | cons e es ih => grind [insert, keys, mem_keys_insert]

/-- A value that takes the place of another may be put before or after a value under another key. -/
theorem insert_insert_comm {es : Assoc α} {s t : String} (h : s ≠ t) (hs : s ∈ es.keys) (v w : α) :
    (es.insert s v).insert t w = (es.insert t w).insert s v := by
  induction es with
  | nil => cases hs
  | cons e es ih => grind [insert, keys]

theorem not_mem_keys_of_nodup {β : Type} {es : Assoc α} {fs : Assoc β} {e : String × β}
    (h : (es.keys ++ keys (e :: fs)).Nodup) : e.1 ∉ es.keys :=
  fun hi => (List.nodup_append.1 h).2.2 e.1 hi e.1 List.mem_cons_self rfl

/-- New and different keys go last one by one. -/
theorem foldl_insert_of_nodup {es fs : Assoc α} (h : (es.keys ++ fs.keys).Nodup) :
    fs.foldl (fun es e => es.insert e.1 e.2) es = es ++ fs := by
  induction fs generalizing es with
  | nil => simp
  | cons e fs ih =>
    rw [List.foldl_cons, insert_of_not_mem (not_mem_keys_of_nodup h),
      ih (by simpa [keys] using h)]
    simp

/-! ## What removing leaves of the entries -/

theorem erase_sublist (es : Assoc α) (key : String) : List.Sublist (es.erase key) es := by
  induction es with
  | nil => exact .slnil
  | cons e es ih =>
    rw [erase]
    split
    · exact ih.cons e
    · exact ih.cons_cons e

theorem not_mem_keys_erase (es : Assoc α) (key : String) : key ∉ (es.erase key).keys := by
  induction es with
  | nil => simp [erase, keys]
  | cons e es ih => grind [erase, keys]

end Assoc

end DocumentDb
