import DocumentDb.Pipeline.Group
import DocumentDb.Proofs.Result
import DocumentDb.Proofs.Value.Order
import Mathlib.Data.List.Basic

/-!
# Groups partition the documents

Groups are found, opened and filled in one pass over the documents. The result is told in two: first
the keys of the groups, then for each of them what its fields gather over its documents.

**Homes** (`home`). A document belongs to the first group whose key is alike to its own. A group
that is opened later stands behind, so a document keeps its home.

**Partitions** (`Partition`). Keys partition some documents if no two of them are alike, if every
document has a home, and if each key is that of a document before which all documents belong to
earlier groups.

**Theorem (`group_partitions`).** If all expressions can be evaluated, grouping gives one document
for each key of a partition, with what its fields gather over the documents that belong to it.
Being alike is never chained, since it is not transitive.
-/

namespace DocumentDb

/-! ## What fields gather -/

/-- The value of an expression on a document, if it can be evaluated and has one. -/
def Expression.valueOn (d : Document) (e : Expression) : Option Value :=
  match e.evaluate d with
  | .ok v => v
  | .error _ => none

theorem Expression.evaluate_eq_ok_valueOn {d : Document} {e : Expression}
    (h : ∃ v, e.evaluate d = .ok v) : e.evaluate d = .ok (e.valueOn d) := by
  obtain ⟨v, hv⟩ := h
  rw [valueOn, hv]

namespace GroupField

/-- The fragment that asks for a field. -/
def fragment (f : GroupField) : Fragment :=
  .compute f.name (.operator f.operator f.argument)

/-- The accumulator of a field before the first document. -/
def initial (f : GroupField) : Accumulator :=
  match Accumulator.start f.operator with
  | .ok a => a
  | .error _ => default

/-- The accumulator of a field after some documents. -/
def gathered (f : GroupField) (docs : List Document) : Accumulator :=
  docs.foldl (fun a d => a.step (f.argument.valueOn d)) f.initial

theorem start_eq_ok_initial {f : GroupField} (h : ∃ a, Accumulator.start f.operator = .ok a) :
    Accumulator.start f.operator = .ok f.initial := by
  obtain ⟨a, ha⟩ := h
  rw [initial, ha]

theorem gathered_concat (f : GroupField) (docs : List Document) (d : Document) :
    f.gathered (docs ++ [d]) = (f.gathered docs).step (f.argument.valueOn d) := by
  simp [gathered]

end GroupField

/-- All operators are known, and the key and all arguments can be evaluated on all documents. -/
structure Evaluable (id : Expression) (fields : List GroupField) (docs : List Document) :
    Prop where
  known : ∀ f ∈ fields, ∃ a, Accumulator.start f.operator = .ok a
  keyed : ∀ d ∈ docs, ∃ v, id.evaluate d = .ok v
  valued : ∀ d ∈ docs, ∀ f ∈ fields, ∃ v, f.argument.evaluate d = .ok v

/-- Besides, the fields have different names other than that of the key. -/
structure Groupable (id : Expression) (fields : List GroupField) (docs : List Document) :
    Prop extends Evaluable id fields docs where
  distinct : (fields.map GroupField.name).Nodup
  free : idKey ∉ fields.map GroupField.name

/-- Some of the documents will do as well. -/
theorem Evaluable.of_subset {id : Expression} {fields : List GroupField}
    {docs docs' : List Document} (h : Evaluable id fields docs) (hs : docs' ⊆ docs) :
    Evaluable id fields docs' where
  known := h.known
  keyed d hd := h.keyed d (hs hd)
  valued d hd := h.valued d (hs hd)

theorem groupFields_map_fragment (fields : List GroupField) :
    groupFields (fields.map GroupField.fragment) = .ok fields := by
  induction fields with
  | nil => rfl
  | cons f fields ih =>
    simp only [List.map_cons, groupFields, GroupField.fragment, Fragment.compute] at ih ⊢
    rw [ih]
    rfl

theorem requireGroupNames_map_fragment {fields : List GroupField}
    (h : idKey ∉ fields.map GroupField.name) :
    requireGroupNames (fields.map GroupField.fragment) = .ok () := by
  rw [requireGroupNames, if_neg]
  simpa [GroupField.fragment, Fragment.compute] using h

/-! ## Homes -/

/-- The key of a document. -/
def keyOn (id : Expression) (d : Document) : Value :=
  (id.valueOn d).getD .null

theorem evaluateOrNull_eq_ok_keyOn {id : Expression} {d : Document}
    (h : ∃ v, id.evaluate d = .ok v) : id.evaluateOrNull d = .ok (keyOn id d) := by
  rw [Expression.evaluateOrNull, Expression.evaluate_eq_ok_valueOn h]
  rfl

/-- The place of the first of some keys that is alike to a given one. -/
def home (ids : List Value) (key : Value) : Option Nat :=
  ids.findIdx? (·.alike key)

/-- The documents that belong to the key in a place. -/
def members (id : Expression) (ids : List Value) (i : Nat) (docs : List Document) :
    List Document :=
  docs.filter fun d => home ids (keyOn id d) == some i

variable {id : Expression} {fields : List GroupField} {ids : List Value} {docs : List Document}
  {d : Document} {key : Value}

theorem home_concat_of_some {i : Nat} (h : home ids key = some i) (v : Value) :
    home (ids ++ [v]) key = some i := by
  rw [home, List.findIdx?_append, ← home, h]
  rfl

theorem home_concat_self (h : home ids key = none) : home (ids ++ [key]) key = some ids.length := by
  rw [home, List.findIdx?_append, ← home, h]
  simp [List.findIdx?_cons, Value.alike_self]

/-- Keys that partition some documents. -/
structure Partition (id : Expression) (ids : List Value) (docs : List Document) : Prop where
  unlike : ids.Pairwise fun v w => v.alike w = false
  housed : ∀ d ∈ docs, ∃ i, home ids (keyOn id d) = some i
  founded : ∀ i v, ids[i]? = some v → ∃ before d after, docs = before ++ d :: after ∧
    keyOn id d = v ∧ ∀ e ∈ before, ∃ j < i, home ids (keyOn id e) = some j

namespace Partition

theorem nil : Partition id [] [] :=
  ⟨.nil, nofun, nofun⟩

/-- A document joins the group that is its home. -/
theorem join (h : Partition id ids docs) {i : Nat} (hd : home ids (keyOn id d) = some i) :
    Partition id ids (docs ++ [d]) where
  unlike := h.unlike
  housed e he := by
    rcases List.mem_append.1 he with he | he
    · exact h.housed e he
    · rw [List.mem_singleton.1 he]
      exact ⟨i, hd⟩
  founded j v hj := by
    obtain ⟨before, e, after, rfl, he, hb⟩ := h.founded j v hj
    exact ⟨before, e, after ++ [d], by simp, he, hb⟩

/-- A document without a home opens a group. -/
theorem found (h : Partition id ids docs) (hd : home ids (keyOn id d) = none) :
    Partition id (ids ++ [keyOn id d]) (docs ++ [d]) where
  unlike := by
    rw [List.pairwise_append]
    refine ⟨h.unlike, List.pairwise_singleton .., fun v hv w hw => ?_⟩
    rw [List.mem_singleton.1 hw]
    exact List.findIdx?_eq_none_iff.1 hd v hv
  housed e he := by
    rcases List.mem_append.1 he with he | he
    · obtain ⟨i, hi⟩ := h.housed e he
      exact ⟨i, home_concat_of_some hi _⟩
    · rw [List.mem_singleton.1 he]
      exact ⟨_, home_concat_self hd⟩
  founded j v hj := by
    rw [List.getElem?_append] at hj
    split at hj
    · obtain ⟨before, e, after, rfl, he, hb⟩ := h.founded j v hj
      refine ⟨before, e, after ++ [d], by simp, he, fun e' he' => ?_⟩
      obtain ⟨k, hk, hh⟩ := hb e' he'
      exact ⟨k, hk, home_concat_of_some hh _⟩
    · next hlt =>
      obtain ⟨hj0, rfl⟩ : j - ids.length = 0 ∧ keyOn id d = v := by
        rw [List.getElem?_singleton] at hj
        split at hj
        · exact ⟨‹_›, Option.some.inj hj⟩
        · cases hj
      refine ⟨docs, d, [], rfl, rfl, fun e he => ?_⟩
      obtain ⟨i, hi⟩ := h.housed e he
      have : i < ids.length := (List.findIdx?_eq_some_iff_getElem.1 hi).1
      exact ⟨i, by omega, home_concat_of_some hi _⟩

/-- Each key is that of a document. -/
theorem exists_keyOn_eq (h : Partition id ids docs) {v : Value} (hv : v ∈ ids) :
    ∃ d ∈ docs, keyOn id d = v := by
  obtain ⟨i, hi⟩ := List.mem_iff_getElem?.1 hv
  obtain ⟨before, d, after, hdocs, hd, -⟩ := h.founded i v hi
  exact ⟨d, hdocs ▸ List.mem_append_cons_self .., hd⟩

theorem exists_alike_keyOn (h : Partition id ids docs) (hd : d ∈ docs) :
    ∃ v ∈ ids, v.alike (keyOn id d) = true := by
  obtain ⟨i, hi⟩ := h.housed d hd
  have ⟨hlt, ha, _⟩ := List.findIdx?_eq_some_iff_getElem.1 hi
  exact ⟨_, List.getElem_mem hlt, ha⟩

theorem eq_nil_iff (h : Partition id ids docs) : ids = [] ↔ docs = [] := by
  constructor
  · rintro rfl
    refine List.eq_nil_iff_forall_not_mem.2 fun d hd => ?_
    obtain ⟨i, hi⟩ := h.housed d hd
    cases hi
  · rintro rfl
    cases ids with
    | nil => rfl
    | cons v ids =>
      obtain ⟨before, d, after, hnil, -⟩ := h.founded 0 v rfl
      simp at hnil

end Partition

/-! ## One more document -/

namespace Group

/-- The group after one more document whose arguments can be evaluated. -/
def taken (fields : List GroupField) (d : Document) (g : Group) : Group where
  key := g.key
  states := List.zipWith Accumulator.step g.states (fields.map fun f => f.argument.valueOn d)

theorem take_eq_ok_taken (hv : ∀ f ∈ fields, ∃ v, f.argument.evaluate d = .ok v) (g : Group) :
    g.take fields d = .ok (g.taken fields d) := by
  rw [take, mapM_eq_ok_map fun f hf => Expression.evaluate_eq_ok_valueOn (hv f hf)]
  rfl

theorem taken_gathered (key : Value) :
    taken fields d ⟨key, fields.map fun f => f.gathered docs⟩ =
      ⟨key, fields.map fun f => f.gathered (docs ++ [d])⟩ := by
  simp [taken, List.zipWith_map, GroupField.gathered_concat, List.zipWith_self]

end Group

theorem takeInto_of_findIdx?_some (hv : ∀ f ∈ fields, ∃ v, f.argument.evaluate d = .ok v)
    {groups : List Group} {i : Nat} (hi : groups.findIdx? (·.key.alike key) = some i) :
    takeInto fields key d groups = .ok (groups.modify i (Group.taken fields d)) := by
  induction groups generalizing i with
  | nil => cases hi
  | cons g groups ih =>
    rw [List.findIdx?_cons] at hi
    rw [takeInto]
    split at hi
    · next hg =>
      cases hi
      rw [if_pos hg, Group.take_eq_ok_taken hv]
      rfl
    · next hg =>
      obtain ⟨j, hj, rfl⟩ := Option.map_eq_some_iff.1 hi
      rw [if_neg hg, ih hj]
      rfl

theorem takeInto_of_findIdx?_none (hk : ∀ f ∈ fields, ∃ a, Accumulator.start f.operator = .ok a)
    (hv : ∀ f ∈ fields, ∃ v, f.argument.evaluate d = .ok v)
    {groups : List Group} (hn : groups.findIdx? (·.key.alike key) = none) :
    takeInto fields key d groups =
      .ok (groups ++ [Group.taken fields d ⟨key, fields.map GroupField.initial⟩]) := by
  induction groups with
  | nil =>
    rw [takeInto, mapM_eq_ok_map fun f hf => GroupField.start_eq_ok_initial (hk f hf)]
    show (do return [← Group.take fields d _]) = _
    rw [Group.take_eq_ok_taken hv]
    rfl
  | cons g groups ih =>
    rw [List.findIdx?_cons] at hn
    rw [takeInto]
    split at hn
    · cases hn
    · next hg =>
      rw [if_neg hg, ih (by simpa using hn)]
      rfl

/-! ## All documents -/

theorem members_concat (i : Nat) :
    members id ids i (docs ++ [d]) =
      members id ids i docs ++ if home ids (keyOn id d) = some i then [d] else [] := by
  by_cases h : home ids (keyOn id d) = some i <;> simp [members, List.filter_append, h]

/-- The groups of some documents, given their keys. -/
def groupsAt (id : Expression) (fields : List GroupField) (ids : List Value)
    (docs : List Document) : List Group :=
  ids.mapIdx fun i v => ⟨v, fields.map fun f => f.gathered (members id ids i docs)⟩

theorem map_key_groupsAt : (groupsAt id fields ids docs).map Group.key = ids :=
  List.ext_getElem (by simp [groupsAt]) fun j h₁ h₂ => by simp [groupsAt]

theorem findIdx?_groupsAt (key : Value) :
    (groupsAt id fields ids docs).findIdx? (·.key.alike key) = home ids key :=
  calc (groupsAt id fields ids docs).findIdx? (·.key.alike key)
    _ = ((groupsAt id fields ids docs).map Group.key).findIdx? (·.alike key) := by
      rw [List.findIdx?_map]
      rfl
    _ = home ids key := by rw [map_key_groupsAt, home]

theorem groupsAt_join {i : Nat} (hd : home ids (keyOn id d) = some i) :
    (groupsAt id fields ids docs).modify i (Group.taken fields d) =
      groupsAt id fields ids (docs ++ [d]) := by
  refine List.ext_getElem (by simp [groupsAt]) fun j h₁ h₂ => ?_
  rw [List.getElem_modify]
  simp only [groupsAt, List.getElem_mapIdx, members_concat, hd, Option.some_inj]
  split
  · exact Group.taken_gathered _
  · simp

theorem Partition.members_found (h : Partition id ids docs) (hd : home ids (keyOn id d) = none)
    (i : Nat) :
    members id (ids ++ [keyOn id d]) i (docs ++ [d]) =
      if i = ids.length then [d] else members id ids i docs := by
  have hold : members id (ids ++ [keyOn id d]) i docs = members id ids i docs := by
    refine List.filter_congr fun e he => ?_
    obtain ⟨j, hj⟩ := h.housed e he
    rw [hj, home_concat_of_some hj]
  rw [members_concat, hold, home_concat_self hd]
  by_cases hi : i = ids.length
  · have hnone : members id ids i docs = [] := by
      refine List.filter_eq_nil_iff.2 fun e _ he => ?_
      have hlt := (List.findIdx?_eq_some_iff_getElem.1 (beq_iff_eq.1 he)).1
      exact Nat.ne_of_lt hlt hi
    rw [if_pos hi, if_pos (congrArg some hi.symm), hnone, List.nil_append]
  · rw [if_neg hi, if_neg fun h => hi (Option.some.inj h).symm, List.append_nil]

theorem Partition.groupsAt_found (h : Partition id ids docs)
    (hd : home ids (keyOn id d) = none) :
    groupsAt id fields ids docs ++
        [Group.taken fields d ⟨keyOn id d, fields.map GroupField.initial⟩] =
      groupsAt id fields (ids ++ [keyOn id d]) (docs ++ [d]) := by
  simp only [groupsAt, h.members_found hd, List.mapIdx_concat, if_pos]
  congr 1
  · refine List.ext_getElem (by simp) fun j h₁ h₂ => ?_
    have hj : j ≠ ids.length := by simpa using Nat.ne_of_lt (by simpa using h₁)
    simp only [List.getElem_mapIdx, if_neg hj]
  · exact congrArg (fun g => [g]) (@Group.taken_gathered fields [] d _)

/-- One more document takes the groups of a partition to those of a partition. -/
theorem Partition.step (h : Partition id ids docs)
    (hk : ∀ f ∈ fields, ∃ a, Accumulator.start f.operator = .ok a)
    (hv : ∀ f ∈ fields, ∃ v, f.argument.evaluate d = .ok v) :
    ∃ ids', Partition id ids' (docs ++ [d]) ∧
      takeInto fields (keyOn id d) d (groupsAt id fields ids docs) =
        .ok (groupsAt id fields ids' (docs ++ [d])) := by
  cases hd : home ids (keyOn id d) with
  | some i =>
    refine ⟨ids, h.join hd, ?_⟩
    rw [takeInto_of_findIdx?_some hv ((findIdx?_groupsAt _).trans hd), groupsAt_join hd]
  | none =>
    refine ⟨ids ++ [keyOn id d], h.found hd, ?_⟩
    rw [takeInto_of_findIdx?_none hk hv ((findIdx?_groupsAt _).trans hd), h.groupsAt_found hd]

theorem Partition.run (h : Partition id ids docs) {more : List Document}
    (hg : Evaluable id fields more) :
    ∃ ids', Partition id ids' (docs ++ more) ∧
      more.foldlM (fun groups d => do takeInto fields (← id.evaluateOrNull d) d groups)
        (groupsAt id fields ids docs) = .ok (groupsAt id fields ids' (docs ++ more)) := by
  induction more generalizing ids docs with
  | nil =>
    rw [List.append_nil]
    exact ⟨ids, h, rfl⟩
  | cons d more ih =>
    obtain ⟨ids₁, h₁, hd⟩ := h.step hg.known (hg.valued d List.mem_cons_self)
    obtain ⟨ids₂, h₂, hm⟩ := ih h₁ (hg.of_subset (List.subset_cons_self d more))
    refine ⟨ids₂, by simpa using h₂, ?_⟩
    rw [List.foldlM_cons, evaluateOrNull_eq_ok_keyOn (hg.keyed d List.mem_cons_self)]
    show takeInto fields (keyOn id d) d _ >>= _ = _
    rw [hd]
    rw [List.append_assoc] at hm
    exact hm

/-- All documents are in the groups of a partition. -/
theorem Evaluable.exists_groupsOf_eq (h : Evaluable id fields docs) :
    ∃ ids, Partition id ids docs ∧
      groupsOf id fields docs = .ok (groupsAt id fields ids docs) :=
  Partition.nil.run h

/-! ## Main result -/

theorem Group.document_map (key : Value) (g : GroupField → Accumulator) :
    Group.document fields ⟨key, fields.map g⟩ =
      fields.foldl (fun d f => d.insert f.name (g f).finish) (Document.single idKey key) := by
  have hz : List.zip fields (fields.map g) = fields.map fun f => (f, g f) :=
    List.map_prod_left_eq_zip.symm
  rw [document, hz, List.foldl_map]

theorem Group.document_eq (hd : (fields.map GroupField.name).Nodup)
    (hf : idKey ∉ fields.map GroupField.name) (key : Value) (g : GroupField → Accumulator) :
    Group.document fields ⟨key, fields.map g⟩ =
      (idKey, key) :: fields.map fun f => (f.name, (g f).finish) := by
  have hk : (Assoc.keys (Document.single idKey key) ++
      Assoc.keys (fields.map fun f => (f.name, (g f).finish))).Nodup := by
    simpa [Assoc.keys, Document.single, Function.comp_def] using And.intro (by simpa using hf) hd
  have := Assoc.foldl_insert_of_nodup hk
  rw [List.foldl_map] at this
  rw [document_map]
  exact this

theorem map_document_groupsAt (hd : (fields.map GroupField.name).Nodup)
    (hf : idKey ∉ fields.map GroupField.name) :
    (groupsAt id fields ids docs).map (Group.document fields) =
      ids.mapIdx fun i v => (idKey, v) ::
        fields.map fun f => (f.name, (f.gathered (members id ids i docs)).finish) :=
  List.ext_getElem (by simp [groupsAt]) fun i h₁ h₂ => by
    simp [groupsAt, Group.document_eq hd hf]

theorem group_eq_ok {groups : List Group} (h : idKey ∉ fields.map GroupField.name)
    (hg : groupsOf id fields docs = .ok groups) :
    group id (fields.map GroupField.fragment) docs =
      .ok (groups.map (Group.document fields)) :=
  bind_eq_ok_iff.2 ⟨(), requireGroupNames_map_fragment h, bind_eq_ok_iff.2
    ⟨fields, groupFields_map_fragment fields, bind_pure_eq_ok_iff.2 ⟨_, hg, rfl⟩⟩⟩

/-- **Grouping partitions the documents.** It gives one document for each key of a partition: the
key, and under each name what the field has gathered in the end over the documents that belong to
the key, in their order. -/
theorem group_partitions (h : Groupable id fields docs) :
    ∃ (ids : List Value) (out : List Document),
      group id (fields.map GroupField.fragment) docs = .ok out ∧
      out = (ids.mapIdx fun i v => (idKey, v) ::
        fields.map fun f => (f.name, (f.gathered (members id ids i docs)).finish)) ∧
      (ids.Pairwise fun v w => v.alike w = false) ∧
      (∀ d ∈ docs, ∃ i, home ids (keyOn id d) = some i) ∧
      (∀ i v, ids[i]? = some v → ∃ before d after, docs = before ++ d :: after ∧
        keyOn id d = v ∧ ∀ e ∈ before, ∃ j < i, home ids (keyOn id e) = some j) ∧
      (out = [] ↔ docs = []) := by
  obtain ⟨ids, hp, hg⟩ := h.exists_groupsOf_eq
  refine ⟨ids, _, ?_, rfl, hp.unlike, hp.housed, hp.founded, ?_⟩
  · rw [← map_document_groupsAt h.distinct h.free]
    exact bind_eq_ok_iff.2 ⟨(), requireGroupNames_map_fragment h.free, bind_eq_ok_iff.2
      ⟨fields, groupFields_map_fragment fields, bind_pure_eq_ok_iff.2 ⟨_, hg, rfl⟩⟩⟩
  · rw [List.mapIdx_eq_nil_iff]
    exact hp.eq_nil_iff

/-- Of three people, two are in one team and one is in none. -/
theorem group_partitions_by_team :
    let fields : List GroupField :=
      [⟨"members", "$sum", .literal (.int32 1)⟩, ⟨"names", "$push", .path "name"⟩]
    let docs : List Document :=
      [[("name", .string "a"), ("team", .string "red")], [("name", .string "b")],
        [("name", .string "c"), ("team", .string "red")]]
    Groupable (.path "team") fields docs ∧
      ∃ out, group (.path "team") (fields.map GroupField.fragment) docs = .ok out ∧ out ≠ [] := by
  intro fields docs
  have h : Groupable (.path "team") fields docs :=
    { known := by simp [fields, Accumulator.start]
      distinct := by decide
      free := by decide
      keyed := fun d _ => ⟨_, rfl⟩
      valued := by
        intro d _ f hf
        simp only [fields, List.mem_cons, List.not_mem_nil, or_false] at hf
        rcases hf with rfl | rfl <;> exact ⟨_, rfl⟩ }
  obtain ⟨ids, out, hout, -, -, -, -, hnil⟩ := group_partitions h
  exact ⟨h, out, hout, fun hn => by simp [docs] at hnil; exact hnil hn⟩

example : group (.path "team") [.count "members"]
    [[("team", .string "red")], [], [("team", .string "red")]] =
      .ok [[("_id", .string "red"), ("members", .int32 2)],
        [("_id", .null), ("members", .int32 1)]] := by
  rfl

end DocumentDb
