import DocumentDb.Proofs.Memory.Prefix
import DocumentDb.Proofs.Memory.Single

/-!
# Unique indexes are declared and enforced

A unique index is declared by one loop over the stored documents and enforced by another one at each
write. Both ask whether two documents have values that the order does not tell apart.

**Refusals.** An index that does not separate the stored documents is refused, and the store stays
as it was: since there are documents, the collection need not be made
(`Store.addIndex_of_not_separates`). An insert that clashes is refused with the same code.

**Lifting** (`Step.Lifts`). An index stays as it was declared until a step drops it or its
collection or declares it anew with another uniqueness (`Step.mem_indexes`, `mem_indexes_after`), so
that all writes up to then are checked against it.

**Theorem (`unique_index_accepted_iff`).** A unique index is accepted exactly if it can hold, and
holds from then on.
-/

namespace DocumentDb.Memory

/-! ## Indexes of a collection -/

namespace Collection

variable {c c' : Collection} {name field : String} {i j : Index} {js : List Index}

theorem indexes_of_applied {w : Write} {e : Effect} (h : c.Applied name w e) :
    e.collection.indexes = c.indexes := by
  cases h <;> rfl

theorem indexes_run (c : Collection) (name : String) (ws : List Write) :
    (c.run name ws).collection.indexes = c.indexes :=
  run_keeps (P := fun c' => c'.indexes = c.indexes)
    (fun ha h => (indexes_of_applied ha).trans h) ws rfl

theorem mem_placeIndex_self (i : Index) (js : List Index) : i ∈ placeIndex i js := by
  induction js with
  | nil => exact List.mem_singleton_self i
  | cons k js ih => grind [placeIndex]

theorem mem_placeIndex_of_ne (h : j ∈ js) (hne : j.field ≠ i.field) : j ∈ placeIndex i js := by
  induction js with
  | nil => cases h
  | cons k js ih => grind [placeIndex]

theorem filter_ne_placeIndex (i : Index) (js : List Index) :
    (placeIndex i js).filter (·.field != i.field) = js.filter (·.field != i.field) := by
  induction js with
  | nil => simp [placeIndex]
  | cons k js ih =>
    rw [placeIndex]
    split
    · next hk => simp [hk]
    · next hk => simp [hk, ih]

/-- An index is the only one on its field. -/
theorem filter_eq_placeIndex (h : (js.map Index.field).Nodup) :
    (placeIndex i js).filter (·.field == i.field) = [i] := by
  induction js with
  | nil => simp [placeIndex]
  | cons k js ih =>
    rw [List.map_cons, List.nodup_cons] at h
    rw [placeIndex]
    split
    · next hk =>
      have hrest : js.filter (·.field == i.field) = [] := by
        refine List.filter_eq_nil_iff.2 fun j hj hji => h.1 ?_
        rw [hk, ← beq_iff_eq.1 hji]
        exact List.mem_map_of_mem hj
      rw [List.filter_cons_of_pos (by simp), hrest]
    · next hk => rw [List.filter_cons_of_neg (by simpa using hk), ih h.2]

theorem addIndex_of_separates (hu : i.unique = true) (h : i.Separates c.documents)
    (name : String) :
    c.addIndex name i = .ok { c with indexes := placeIndex i c.indexes } := by
  rw [addIndex, if_pos hu, (firstRepeated?_eq_none_iff .nil).2 h]

theorem addIndex_of_not_separates (hu : i.unique = true) (h : ¬ i.Separates c.documents)
    (name : String) : ∃ v, c.addIndex name i =
      .error (DatabaseFault.duplicateKey name i.field v).error := by
  rw [addIndex, if_pos hu]
  cases hr : firstRepeated? i [] c.documents with
  | none => exact absurd ((firstRepeated?_eq_none_iff .nil).1 hr) h
  | some v => exact ⟨v, rfl⟩

theorem indexes_of_addIndex (h : c.addIndex name i = .ok c') :
    c'.indexes = placeIndex i c.indexes := by
  rw [addIndex] at h
  split at h <;> cases h
  rfl

theorem indexes_of_dropIndex (h : c.dropIndex field = .ok c') :
    c'.indexes = c.indexes.filter (·.field != field) := by
  rw [dropIndex] at h
  split at h <;> cases h
  rfl

theorem dropIndex_of_exists (h : ∃ i ∈ c.indexes, i.field = field) :
    c.dropIndex field = .ok { c with indexes := c.indexes.filter (·.field != field) } := by
  rw [dropIndex, if_pos (by simpa using h)]

theorem dropIndex_of_not_exists (h : ¬ ∃ i ∈ c.indexes, i.field = field) :
    c.dropIndex field = .error (DatabaseFault.indexNotFound field).error := by
  rw [dropIndex, if_neg (by simpa using h)]

theorem checkUnique_of_not_admits {others : List Document} {d : Document}
    (h : ¬ c.Admits others d) (name : String) : ∃ field v, c.checkUnique name others d =
      .error (DatabaseFault.duplicateKey name field v).error := by
  cases hu : c.checkUnique name others d with
  | ok u => exact absurd (checkUnique_eq_ok_iff.1 hu) h
  | error e =>
    rw [checkUnique] at hu
    split at hu <;> cases hu
    exact ⟨_, _, rfl⟩

theorem insert_of_clashes {id : String} {d : Document} (hid : ¬ c.Stores id)
    (hd : c.Clashes (d.withId id)) (name : String) : ∃ field v, c.apply name (.insert id d) =
      .error (DatabaseFault.duplicateKey name field v).error := by
  have hadmits : ¬ c.Admits c.documents (d.withId id) :=
    fun h => (admits_iff_not_clashes c.documents).1 h hd
  obtain ⟨field, v, hv⟩ := checkUnique_of_not_admits hadmits name
  refine ⟨field, v, ?_⟩
  rw [apply, insert, position_eq_none_iff_not_stores.2 hid, if_neg (by simp)]
  dsimp only
  rw [hv]
  rfl

end Collection

/-! ## Declaring and removing -/

namespace Store

variable {s : Store} {name field : String}

/-- The store with other indexes on a collection. -/
def setIndexes (s : Store) (name : String) (indexes : List Index) : Store :=
  s.setCollection name { s.collection name with indexes := indexes }

theorem indexes_setIndexes (s : Store) (name : String) (indexes : List Index) :
    ((s.setIndexes name indexes).collection name).indexes = indexes := by
  rw [setIndexes, collection_setCollection_self]

theorem createCollection_eq_self (h : s.documents name ≠ []) : s.createCollection name = s := by
  cases hc : s.collections.get? name with
  | none =>
    rw [documents, collection, hc] at h
    exact absurd rfl h
  | some c =>
    rw [createCollection, setCollection, Assoc.insert_eq_self]
    rw [collection, hc, Option.getD_some]

theorem addIndex_of_separates (h : (⟨field, true⟩ : Index).Separates (s.documents name)) :
    s.addIndex name field true = (.ok (), s.setIndexes name
      (Collection.placeIndex ⟨field, true⟩ (s.collection name).indexes)) := by
  rw [addIndex, Collection.addIndex_of_separates rfl h]
  rfl

theorem addIndex_of_not_separates
    (h : ¬ (⟨field, true⟩ : Index).Separates (s.documents name)) :
    ∃ detail, s.addIndex name field true = (.error (.native (some 11000) detail), s) := by
  have hne : s.documents name ≠ [] := fun hnil => h (hnil ▸ .nil)
  obtain ⟨v, hv⟩ := Collection.addIndex_of_not_separates (c := s.collection name) rfl h name
  rw [addIndex, hv, createCollection_eq_self hne]
  exact ⟨_, rfl⟩

theorem addIndex_made_iff (s : Store) (name field : String) :
    (s.addIndex name field true).1 = .ok () ↔
      (⟨field, true⟩ : Index).Separates (s.documents name) := by
  refine ⟨fun hok => by_contra fun h => ?_, fun h => by rw [addIndex_of_separates h]⟩
  obtain ⟨detail, hd⟩ := addIndex_of_not_separates h
  rw [hd] at hok
  cases hok

theorem dropIndex_of_missing (h : s.collections.get? name = none) :
    s.dropIndex name field = (.error (.collectionNotFound name), s) := by
  rw [dropIndex, h]

theorem dropIndex_of_exists {c : Collection} (hc : s.collections.get? name = some c)
    (h : ∃ i ∈ c.indexes, i.field = field) :
    s.dropIndex name field =
      (.ok (), s.setIndexes name (c.indexes.filter (·.field != field))) := by
  have hcol : s.collection name = c := by rw [collection, hc, Option.getD_some]
  rw [dropIndex, hc]
  dsimp only
  rw [Collection.dropIndex_of_exists h, setIndexes, hcol]

theorem dropIndex_of_not_exists {c : Collection} (hc : s.collections.get? name = some c)
    (h : ¬ ∃ i ∈ c.indexes, i.field = field) :
    s.dropIndex name field = (.error (DatabaseFault.indexNotFound field).error, s) := by
  rw [dropIndex, hc]
  dsimp only
  rw [Collection.dropIndex_of_not_exists h]

/-- An index is removed exactly if it and its collection are there. -/
theorem dropIndex_made_iff (s : Store) (name field : String) :
    (s.dropIndex name field).1 = .ok () ↔
      ∃ c, s.collections.get? name = some c ∧ ∃ i ∈ c.indexes, i.field = field := by
  cases hc : s.collections.get? name with
  | none => simp [dropIndex_of_missing hc]
  | some c =>
    by_cases h : ∃ i ∈ c.indexes, i.field = field
    · rw [dropIndex_of_exists hc h]
      exact ⟨fun _ => ⟨c, rfl, h⟩, fun _ => rfl⟩
    · rw [dropIndex_of_not_exists hc h]
      constructor
      · intro hok
        cases hok
      · rintro ⟨c', hc', h'⟩
        cases hc'
        exact absurd h' h

theorem dropIndex_of_error {e : Error} (h : (s.dropIndex name field).1 = .error e) :
    s.dropIndex name field = (.error e, s) := by
  cases hc : s.collections.get? name with
  | none =>
    rw [dropIndex_of_missing hc] at h ⊢
    rw [Except.error.inj h]
  | some c =>
    by_cases hi : ∃ i ∈ c.indexes, i.field = field
    · rw [dropIndex_of_exists hc hi] at h
      cases h
    · rw [dropIndex_of_not_exists hc hi] at h ⊢
      rw [Except.error.inj h]

/-! ## Inserting -/

variable {id : String} {d : Document}

theorem insert_of_clashes (hid : ¬ (s.collection name).Stores id)
    (hd : (s.collection name).Clashes (d.withId id)) :
    ∃ detail, s.insertDocuments name [(id, d)] = (.error (.native (some 11000) detail), s) := by
  obtain ⟨field, v, hv⟩ := Collection.insert_of_clashes hid hd name
  refine ⟨(DatabaseFault.duplicateKey name field v).wording, ?_⟩
  show ((s.write name [.insert id d]).1.map _, (s.write name [.insert id d]).2) = _
  rw [write_singleton_of_error hv]
  rfl

theorem insert_of_not_clashes (hid : ¬ (s.collection name).Stores id)
    (hd : ¬ (s.collection name).Clashes (d.withId id)) :
    (s.insertDocuments name [(id, d)]).1 = .ok () := by
  obtain ⟨e, he⟩ := Collection.insert_made_iff.2 (not_or.2 ⟨hid, hd⟩)
  show ((s.write name [.insert id d]).1.map fun _ => ()) = .ok ()
  rw [(write_singleton_of_ok he).1]
  rfl

end Store

/-! ## Indexes that stay -/

/-- A step lifts an index of a collection: it drops the collection or the index, or declares the
index anew with another uniqueness. -/
def Step.Lifts (name : String) (i : Index) : Step → Prop
  | .call (.dropCollection other) => other = name
  | .call (.dropIndex other field) => other = name ∧ field = i.field
  | .call (.addIndex other field unique) =>
    other = name ∧ field = i.field ∧ unique ≠ i.unique
  | _ => False

section

variable {s : Store} {name other field : String} {i : Index} {unique : Bool}

theorem mem_indexes_addIndex (h : i ∈ (s.collection name).indexes)
    (hl : ¬ Step.Lifts name i (.call (.addIndex other field unique))) :
    i ∈ ((s.addIndex other field unique).2.collection name).indexes := by
  rcases s.collection_addIndex name other field unique with hc | ⟨rfl, hc⟩
  · rwa [hc]
  · rw [Collection.indexes_of_addIndex hc]
    by_cases hf : i.field = field
    · subst hf
      have hu : unique = i.unique := by_contra fun hu => hl ⟨rfl, rfl, hu⟩
      rw [hu]
      exact Collection.mem_placeIndex_self i _
    · exact Collection.mem_placeIndex_of_ne h hf

theorem mem_indexes_dropIndex (h : i ∈ (s.collection name).indexes)
    (hl : ¬ Step.Lifts name i (.call (.dropIndex other field))) :
    i ∈ ((s.dropIndex other field).2.collection name).indexes := by
  rcases s.collection_dropIndex name other field with hc | ⟨rfl, hc⟩
  · rwa [hc]
  · have hf : i.field ≠ field := fun hf => hl ⟨rfl, hf.symm⟩
    rw [Collection.indexes_of_dropIndex hc]
    exact List.mem_filter.2 ⟨h, by simpa using hf⟩

/-- An index stays through a step that does not lift it. -/
theorem Step.mem_indexes {a : Step} (h : i ∈ (s.collection name).indexes)
    (hl : ¬ a.Lifts name i) : i ∈ ((a.after s).collection name).indexes := by
  cases a with
  | attach | setRunning => exact h
  | call c =>
    cases hw : c.writes with
    | some p =>
      obtain ⟨other, ws⟩ := p
      rw [Step.after, after_of_writes hw]
      by_cases hn : name = other
      · subst hn
        rwa [Store.collection_write_self, Collection.indexes_run]
      · rwa [Store.collection_write_of_ne s other ws hn]
    | none =>
      cases c with
      | insert | replace | delete | bulkWrite => cases hw
      | get | find | count | aggregate | listCollections => exact h
      | createCollection other =>
        show i ∈ ((s.createCollection other).collection name).indexes
        rwa [Store.collection_createCollection]
      | dropCollection other =>
        show i ∈ ((s.dropCollection other).collection name).indexes
        rwa [Store.collection_dropCollection_of_ne s other fun hn => hl hn.symm]
      | addIndex other field unique => exact mem_indexes_addIndex h hl
      | dropIndex other field => exact mem_indexes_dropIndex h hl

/-- An index stays until it is lifted. -/
theorem mem_indexes_after (h : i ∈ (s.collection name).indexes) (steps : List Step)
    (hl : ∀ a ∈ steps, ¬ a.Lifts name i) : i ∈ ((s.after steps).collection name).indexes := by
  induction steps generalizing s with
  | nil => exact h
  | cons a steps ih =>
    rw [List.forall_mem_cons] at hl
    exact ih (a.mem_indexes h hl.1) hl.2

end

/-! ## Main result -/

/-- **A unique index is accepted exactly if it can hold.** In a reachable store a unique index can
be declared exactly if no two documents have values at its field that the order does not tell apart,
where a missing value counts as null. A refusal has the code 11000 and changes nothing. After a
success the index is the only one on its field and nothing else has changed, and until it is lifted,
an insert of a fresh identifier is refused, with the same code and without effect, exactly if its
document clashes with a stored one at a unique index, this one among them. To remove an index fails
exactly if it or its collection is missing, and then changes nothing. -/
theorem unique_index_accepted_iff {s : Store} (hs : Reachable s) (name field : String) :
    let r := s.addIndex name field true
    (r.1 = .ok () ↔ (s.documents name).Pairwise fun d e =>
      (d.lookupOrNull field).alike (e.lookupOrNull field) = false) ∧
    (r.1 ≠ .ok () → ∃ detail, r = (.error (.native (some 11000) detail), s)) ∧
    (r.1 = .ok () →
      (∃ indexes, r.2 = s.setIndexes name indexes ∧
        indexes.filter (·.field == field) = [⟨field, true⟩] ∧
        indexes.filter (·.field != field) =
          (s.collection name).indexes.filter (·.field != field)) ∧
      ∀ steps, (∀ a ∈ steps, ¬ Step.Lifts name ⟨field, true⟩ a) →
        let t := r.2.after steps
        ⟨field, true⟩ ∈ (t.collection name).indexes ∧
        ∀ id d, ¬ (t.collection name).Stores id →
          ((t.collection name).Clashes (d.withId id) → ∃ detail,
            t.insertDocuments name [(id, d)] = (.error (.native (some 11000) detail), t)) ∧
          (¬ (t.collection name).Clashes (d.withId id) →
            (t.insertDocuments name [(id, d)]).1 = .ok ())) ∧
    ((s.dropIndex name field).1 = .ok () ↔
      ∃ c, s.collections.get? name = some c ∧ ∃ i ∈ c.indexes, i.field = field) ∧
    ∀ e, (s.dropIndex name field).1 = .error e → s.dropIndex name field = (.error e, s) := by
  intro r
  have hmade : r.1 = .ok () ↔ (⟨field, true⟩ : Index).Separates (s.documents name) :=
    Store.addIndex_made_iff s name field
  refine ⟨hmade, fun hr => Store.addIndex_of_not_separates (mt hmade.2 hr), fun hr => ?_,
    Store.dropIndex_made_iff s name field, fun e => Store.dropIndex_of_error⟩
  have hafter : r.2 = s.setIndexes name
      (Collection.placeIndex ⟨field, true⟩ (s.collection name).indexes) :=
    congrArg Prod.snd (Store.addIndex_of_separates (hmade.1 hr))
  refine ⟨⟨_, hafter, ?_, ?_⟩, fun steps hl => ⟨?_, fun id d hid => ?_⟩⟩
  · exact Collection.filter_eq_placeIndex (i := ⟨field, true⟩) (hs.wellFormed name).fields_differ
  · exact Collection.filter_ne_placeIndex ⟨field, true⟩ _
  · refine mem_indexes_after ?_ steps hl
    rw [hafter, Store.indexes_setIndexes]
    exact Collection.mem_placeIndex_self _ _
  · exact ⟨Store.insert_of_clashes hid, Store.insert_of_not_clashes hid⟩

/-- Names are not unique but ages are, and an age that is taken later stays taken. -/
theorem unique_index_accepted_iff_of_people :
    let s := Store.empty.after [
      .call (.insert "people" [("1", [("name", .string "A"), ("age", .int32 30)]),
        ("2", [("name", .string "A"), ("age", .int32 20)])]),
      .call (.addIndex "people" "age" false)]
    let t := (s.addIndex "people" "age" true).2.after [
      .call (.insert "people" [("3", [("age", .null)])]),
      .call (.dropIndex "people" "name")]
    Reachable s ∧
      (∃ detail, s.addIndex "people" "name" true = (.error (.native (some 11000) detail), s)) ∧
      (∃ detail, t.insertDocuments "people" [("4", [])] =
        (.error (.native (some 11000) detail), t)) ∧
      (t.insertDocuments "people" [("4", [("age", .int32 40)])]).1 = .ok () := by
  intro s t
  have hs : Reachable s := ⟨.still, _, rfl⟩
  obtain ⟨hname, hrefused, -⟩ := unique_index_accepted_iff hs "people" "name"
  obtain ⟨-, -, hage, -⟩ := unique_index_accepted_iff hs "people" "age"
  have hshared : ¬ (s.documents "people").Pairwise fun d e =>
      (d.lookupOrNull "name").alike (e.lookupOrNull "name") = false := by decide
  obtain ⟨-, hstays⟩ := hage rfl
  obtain ⟨-, hinsert⟩ := hstays [.call (.insert "people" [("3", [("age", .null)])]),
      .call (.dropIndex "people" "name")] (by simp [Step.Lifts])
  have hfresh : ¬ (t.collection "people").Stores "4" := by decide
  have hnull : (t.collection "people").Clashes (Document.withId "4" []) := by decide
  have hnew : ¬ (t.collection "people").Clashes (Document.withId "4" [("age", .int32 40)]) := by
    decide
  exact ⟨hs, hrefused (mt hname.1 hshared), (hinsert "4" [] hfresh).1 hnull,
    (hinsert "4" _ hfresh).2 hnew⟩

end DocumentDb.Memory
