import DocumentDb.Memory.Backend
import DocumentDb.Proofs.Memory.Collection

/-!
# Runs of a store

A run of a store is a list of steps: calls of its operations, each of which may succeed or fail,
and what is done to monitors in between. A store is `Reachable` if a run leads to it from a store
without collections.

**One collection at a time** (`Moves`). Whatever a step is, a given collection is left alone, or
some writes are run on it, or it is dropped, or an index is declared on it or removed
(`Step.moves`). What all of these keep holds of every collection of a reachable store.

**Changes** (`Step.changes`). The changes of a collection that a step produces are those that a
handler hears which listens to that collection alone.
-/

namespace DocumentDb

/-- A call of a backend. -/
inductive Call where
  | insert (name : String) (docs : List (String × Document))
  | replace (name : String) (docs : List (String × Document)) (upsert : Bool)
  | delete (name : String) (ids : List String)
  | get (name : String) (ids : List String)
  | find (name : String) (filter : Option Filter)
  | count (name : String) (filter : Option Filter)
  | aggregate (name : String) (p : Pipeline)
  | bulkWrite (name : String) (ws : List Write)
  | createCollection (name : String)
  | dropCollection (name : String)
  | listCollections
  | addIndex (name field : String) (unique : Bool)
  | dropIndex (name field : String)

/-- The state after an action, whether it succeeds or fails. -/
def stateAfter {σ α : Type} (a : Action σ α) (s : σ) : σ :=
  (a.run.run s).2

namespace Call

/-- The state of a backend after a call. -/
def after {σ : Type} (b : Backend σ) (s : σ) : Call → σ
  | insert name docs => stateAfter (b.insert name docs) s
  | replace name docs upsert => stateAfter (b.replace name docs upsert) s
  | delete name ids => stateAfter (b.delete name ids) s
  | get name ids => stateAfter (b.get name ids) s
  | find name filter => stateAfter (b.find name filter) s
  | count name filter => stateAfter (b.count name filter) s
  | aggregate name p => stateAfter (b.aggregate name p) s
  | bulkWrite name ws => stateAfter (b.bulkWrite name ws) s
  | createCollection name => stateAfter (b.createCollection name) s
  | dropCollection name => stateAfter (b.dropCollection name) s
  | listCollections => stateAfter b.listCollections s
  | addIndex name field unique => stateAfter (b.addIndex name field unique) s
  | dropIndex name field => stateAfter (b.dropIndex name field) s

/-- The collection that a call writes to, and its writes in order. -/
def writes : Call → Option (String × List Write)
  | insert name docs => some (name, docs.map fun p => .insert p.1 p.2)
  | replace name docs upsert => some (name, docs.map fun p => .replace p.1 p.2 upsert)
  | delete name ids => some (name, ids.map .delete)
  | bulkWrite name ws => some (name, ws)
  | _ => none

end Call

namespace Memory

/-! ## What operations do to the collections -/

namespace Store

variable (s : Store) (name : String)

@[simp] theorem collection_setCollection_self (c : Collection) :
    (s.setCollection name c).collection name = c := by
  simp [collection, setCollection, Assoc.get?_insert_self]

theorem collection_setCollection_of_ne {other : String} (c : Collection) (h : other ≠ name) :
    (s.setCollection name c).collection other = s.collection other := by
  simp [collection, setCollection, Assoc.get?_insert_of_ne _ _ h]

@[simp] theorem collection_publish (changes : List Change) (other : String) :
    (s.publish name changes).collection other = s.collection other := rfl

@[simp] theorem collection_createCollection (other : String) :
    (s.createCollection name).collection other = s.collection other := by
  by_cases h : other = name
  · rw [h, createCollection, collection_setCollection_self]
  · rw [createCollection, collection_setCollection_of_ne _ _ _ h]

theorem collection_dropCollection_self : (s.dropCollection name).collection name = {} := by
  rw [dropCollection]
  split
  · simp [collection, publish, Assoc.get?_erase_self]
  · next h => simp_all [collection, Assoc.contains]

theorem collection_dropCollection_of_ne {other : String} (h : other ≠ name) :
    (s.dropCollection name).collection other = s.collection other := by
  rw [dropCollection]
  split
  · simp [collection, publish, Assoc.get?_erase_of_ne _ h]
  · rfl

theorem collection_write_self (ws : List Write) :
    (s.write name ws).2.collection name = ((s.collection name).run name ws).collection := by
  simp [write]

theorem collection_write_of_ne {other : String} (ws : List Write) (h : other ≠ name) :
    (s.write name ws).2.collection other = s.collection other := by
  simp [write, collection_setCollection_of_ne _ _ _ h]

theorem collection_addIndex (other field : String) (unique : Bool) :
    (s.addIndex other field unique).2.collection name = s.collection name ∨
      name = other ∧ (s.collection name).addIndex name ⟨field, unique⟩ =
        .ok ((s.addIndex other field unique).2.collection name) := by
  rw [addIndex]
  cases hc : (s.collection other).addIndex other ⟨field, unique⟩ with
  | error e => exact .inl (collection_createCollection s other name)
  | ok c =>
    by_cases h : name = other
    · subst h
      refine .inr ⟨rfl, ?_⟩
      rw [collection_setCollection_self]
      exact hc
    · exact .inl (collection_setCollection_of_ne s other c h)

theorem collection_dropIndex (other field : String) :
    (s.dropIndex other field).2.collection name = s.collection name ∨
      name = other ∧ (s.collection name).dropIndex field =
        .ok ((s.dropIndex other field).2.collection name) := by
  rw [dropIndex]
  cases hs : s.collections.get? other with
  | none => exact .inl rfl
  | some c =>
    dsimp only
    cases hc : c.dropIndex field with
    | error e => exact .inl rfl
    | ok c' =>
      by_cases h : name = other
      · subst h
        refine .inr ⟨rfl, ?_⟩
        rw [collection_setCollection_self, collection, hs, Option.getD_some]
        exact hc
      · exact .inl (collection_setCollection_of_ne s other c' h)

theorem deliveries_write (ws : List Write) :
    (s.write name ws).2.deliveries =
      s.deliveries ++ (s.monitor name).deliver ((s.collection name).run name ws).changes := rfl

end Store

/-! ## Steps -/

/-- One step of a run. -/
inductive Step where
  | call (c : Call)
  | attach (name : String) (h : Handler)
  | setRunning (name : String) (running : Bool)

namespace Step

/-- The store after a step. -/
def after (s : Store) : Step → Store
  | call c => c.after backend s
  | attach name h => s.attach name h
  | setRunning name running => s.setRunning name running

end Step

/-- The store after some steps. -/
def Store.after (s : Store) (steps : List Step) : Store :=
  steps.foldl Step.after s

/-- A run leads to the store from one without collections. -/
def Reachable (s : Store) : Prop :=
  ∃ shuffle steps, s = ({ shuffle := shuffle } : Store).after steps

/-- The store with one handler that listens to a collection, before anything is delivered. -/
def Store.overheard (s : Store) (name : String) : Store :=
  { s with
    monitors := [(name, { running := true, handlers := [⟨"", fun _ => .ok ()⟩] })]
    deliveries := [] }

/-- The changes of a collection that a step produces. -/
def Step.changes (s : Store) (name : String) (a : Step) : List Change :=
  (a.after (s.overheard name)).deliveries.map Delivery.change

/-- The changes of a collection that some steps produce. -/
def Store.changes (s : Store) (name : String) : List Step → List Change
  | [] => []
  | a :: steps => a.changes s name ++ changes (a.after s) name steps

/-! ## What a step does to one collection -/

/-- What a step can do to the collection of a name, and the changes that it produces. -/
inductive Moves (name : String) (c : Collection) : List Change → Collection → Prop
  | keep : Moves name c [] c
  | write (ws : List Write) : Moves name c (c.run name ws).changes (c.run name ws).collection
  | drop : Moves name c [.ofDocument name .drop none] {}
  | addIndex {i : Index} {c' : Collection} (h : c.addIndex name i = .ok c') : Moves name c [] c'
  | dropIndex {field : String} {c' : Collection} (h : c.dropIndex field = .ok c') :
      Moves name c [] c'

theorem deliver_overheard (s : Store) (name : String) (changes : List Change) :
    (((s.overheard name).monitor name).deliver changes).map Delivery.change = changes := by
  simp [Store.overheard, Store.monitor, Assoc.get?, Monitor.deliver, List.map_flatMap]

theorem deliver_overheard_of_ne (s : Store) {name other : String} (h : other ≠ name)
    (changes : List Change) : ((s.overheard name).monitor other).deliver changes = [] := by
  simp [Store.overheard, Store.monitor, Assoc.get?, Monitor.deliver, Ne.symm h]

theorem after_of_writes {c : Call} {name : String} {ws : List Write}
    (h : c.writes = some (name, ws)) (s : Store) : c.after backend s = (s.write name ws).2 := by
  cases c with
  | insert | replace | delete | bulkWrite =>
    cases h
    rfl
  | _ => cases h

theorem changes_of_writes {c : Call} {name : String} {ws : List Write}
    (h : c.writes = some (name, ws)) (s : Store) :
    (Step.call c).changes s name = ((s.collection name).run name ws).changes := by
  rw [Step.changes, Step.after, after_of_writes h, Store.deliveries_write]
  exact deliver_overheard s name _

theorem changes_of_writes_of_ne {c : Call} {name other : String} {ws : List Write}
    (h : c.writes = some (other, ws)) (hne : other ≠ name) (s : Store) :
    (Step.call c).changes s name = [] := by
  rw [Step.changes, Step.after, after_of_writes h, Store.deliveries_write,
    deliver_overheard_of_ne s hne]
  rfl

theorem changes_dropCollection (s : Store) (name other : String) :
    (Step.call (.dropCollection other)).changes s name =
      if other = name ∧ s.collections.contains other = true then
        [.ofDocument name .drop none] else [] := by
  show ((s.overheard name).dropCollection other).deliveries.map Delivery.change = _
  rw [Store.dropCollection, show (s.overheard name).collections = s.collections from rfl]
  by_cases hs : s.collections.contains other = true
  · rw [if_pos hs]
    by_cases h : other = name
    · subst h
      rw [if_pos ⟨rfl, hs⟩]
      exact deliver_overheard s other _
    · rw [if_neg fun h' => h h'.1]
      show (([] : List Delivery) ++ ((s.overheard name).monitor other).deliver _).map _ = _
      rw [deliver_overheard_of_ne s h]
      rfl
  · rw [if_neg hs, if_neg fun h' => hs h'.2]
    rfl

/-- What the handlers of a collection receive when it is written to are its changes. -/
theorem deliveries_of_writes {c : Call} {name : String} {ws : List Write}
    (h : c.writes = some (name, ws)) (s : Store) :
    (c.after backend s).deliveries =
      s.deliveries ++ (s.monitor name).deliver ((Step.call c).changes s name) := by
  rw [after_of_writes h, changes_of_writes h, Store.deliveries_write]

/-- What the handlers of a collection receive when it is dropped are its changes. -/
theorem deliveries_dropCollection (s : Store) (name : String) :
    (s.dropCollection name).deliveries =
      s.deliveries ++ (s.monitor name).deliver
        ((Step.call (.dropCollection name)).changes s name) := by
  rw [changes_dropCollection, Store.dropCollection]
  by_cases hs : s.collections.contains name = true
  · rw [if_pos hs, if_pos ⟨rfl, hs⟩]
    rfl
  · rw [if_neg hs, if_neg fun h => hs h.2]
    simp [Monitor.deliver]

theorem moves_dropCollection (s : Store) (name other : String) :
    Moves name (s.collection name) ((Step.call (.dropCollection other)).changes s name)
      ((s.dropCollection other).collection name) := by
  rw [changes_dropCollection]
  by_cases h : other = name
  · subst h
    by_cases hs : s.collections.contains other = true
    · rw [if_pos ⟨rfl, hs⟩, Store.collection_dropCollection_self]
      exact .drop
    · rw [if_neg fun h' => hs h'.2, Store.dropCollection, if_neg hs]
      exact .keep
  · rw [if_neg fun h' => h h'.1, Store.collection_dropCollection_of_ne s other (Ne.symm h)]
    exact .keep

theorem changes_addIndex (s : Store) (name other field : String) (unique : Bool) :
    (Step.call (.addIndex other field unique)).changes s name = [] := by
  show ((s.overheard name).addIndex other field unique).2.deliveries.map Delivery.change = []
  rw [Store.addIndex]
  split <;> rfl

theorem moves_addIndex (s : Store) (name other field : String) (unique : Bool) :
    Moves name (s.collection name) [] ((s.addIndex other field unique).2.collection name) := by
  rcases s.collection_addIndex name other field unique with h | ⟨-, h⟩
  · rw [h]
    exact .keep
  · exact .addIndex h

theorem changes_dropIndex (s : Store) (name other field : String) :
    (Step.call (.dropIndex other field)).changes s name = [] := by
  show ((s.overheard name).dropIndex other field).2.deliveries.map Delivery.change = []
  rw [Store.dropIndex]
  split
  · rfl
  · split <;> rfl

theorem moves_dropIndex (s : Store) (name other field : String) :
    Moves name (s.collection name) [] ((s.dropIndex other field).2.collection name) := by
  rcases s.collection_dropIndex name other field with h | ⟨-, h⟩
  · rw [h]
    exact .keep
  · exact .dropIndex h

/-- **What a step can do.** Each collection is moved in one of the ways of `Moves`. -/
theorem Step.moves (s : Store) (name : String) (a : Step) :
    Moves name (s.collection name) (a.changes s name) ((a.after s).collection name) := by
  cases a with
  | attach | setRunning => exact .keep
  | call c =>
    cases hw : c.writes with
    | some p =>
      obtain ⟨other, ws⟩ := p
      rw [Step.after, after_of_writes hw]
      by_cases h : other = name
      · subst h
        rw [changes_of_writes hw, Store.collection_write_self]
        exact .write ws
      · rw [changes_of_writes_of_ne hw h, Store.collection_write_of_ne s other ws (Ne.symm h)]
        exact .keep
    | none =>
      cases c with
      | insert | replace | delete | bulkWrite => cases hw
      | get | find | count | aggregate | listCollections => exact .keep
      | createCollection other =>
        show Moves name _ [] ((s.createCollection other).collection name)
        rw [Store.collection_createCollection]
        exact .keep
      | dropCollection other => exact moves_dropCollection s name other
      | addIndex other field unique =>
        rw [changes_addIndex]
        exact moves_addIndex s name other field unique
      | dropIndex other field =>
        rw [changes_dropIndex]
        exact moves_dropIndex s name other field

/-! ## Runs -/

/-- What every move keeps, a run keeps. -/
theorem after_keeps {P : Collection → Prop} {name : String}
    (hm : ∀ {c c' : Collection} {changes : List Change}, Moves name c changes c' → P c → P c')
    (steps : List Step) {s : Store} (h : P (s.collection name)) :
    P ((s.after steps).collection name) := by
  induction steps generalizing s with
  | nil => exact h
  | cons a steps ih => exact ih (hm (a.moves s name) h)

/-- What every move keeps holds of the collections of a reachable store. -/
theorem Reachable.collection {P : Collection → Prop} {name : String} {s : Store}
    (hs : Reachable s) (h : P {})
    (hm : ∀ {c c' : Collection} {changes : List Change}, Moves name c changes c' → P c → P c') :
    P (s.collection name) := by
  obtain ⟨shuffle, steps, rfl⟩ := hs
  exact after_keeps hm steps h

end Memory

end DocumentDb
