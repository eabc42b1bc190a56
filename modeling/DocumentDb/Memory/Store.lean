import DocumentDb.Memory.Collection
import DocumentDb.Pipeline.Run

/-!
# Stores in memory

A store is a table of collections and a table of monitors. Its operations take the store and give
their result together with the store afterwards, since a refused write may have had effects: the
writes before it stay made.

**Monitors.** All monitors of a collection share their handlers and whether they run. A change is
delivered to every handler that is attached by then, in the order of attachment, if the monitor
runs by then. What a handler answers is noted with the delivery and has no other effect.

**Collections** come into being with the first write or index on them, even one that is refused.
-/

namespace DocumentDb.Memory

/-- A receiver of changes. -/
structure Handler where
  label : String
  respond : Change → Except Error Unit

/-- The monitor of a collection. -/
structure Monitor where
  running : Bool := false
  handlers : List Handler := []
deriving Inhabited

/-- A change that a handler has received, and its answer. -/
structure Delivery where
  handler : String
  change : Change
  answer : Except Error Unit

/-- The deliveries of some changes: each change goes to every handler before the next one. -/
def Monitor.deliver (m : Monitor) (changes : List Change) : List Delivery :=
  if m.running then
    changes.flatMap fun c => m.handlers.map fun h => ⟨h.label, c, h.respond c⟩
  else []

/-- Collections and monitors, and what has been delivered so far. -/
structure Store where
  collections : Assoc Collection := []
  monitors : Assoc Monitor := []
  deliveries : List Delivery := []
  /-- How samples are drawn. -/
  shuffle : Shuffle := .still
deriving Inhabited

namespace Store

/-- The store without collections. -/
def empty : Store := {}

/-- The collection of a name, or an empty one. -/
def collection (s : Store) (name : String) : Collection :=
  (s.collections.get? name).getD {}

/-- The documents of a collection. -/
def documents (s : Store) (name : String) : List Document :=
  (s.collection name).documents

def setCollection (s : Store) (name : String) (c : Collection) : Store :=
  { s with collections := s.collections.insert name c }

/-! ## Monitors -/

/-- The monitor of a collection, which stands still at first. -/
def monitor (s : Store) (name : String) : Monitor :=
  (s.monitors.get? name).getD {}

def setMonitor (s : Store) (name : String) (m : Monitor) : Store :=
  { s with monitors := s.monitors.insert name m }

/-- Adds a handler behind the others of a collection. -/
def attach (s : Store) (name : String) (h : Handler) : Store :=
  let m := s.monitor name
  s.setMonitor name { m with handlers := m.handlers ++ [h] }

/-- Lets the monitor of a collection run, or stops it. -/
def setRunning (s : Store) (name : String) (running : Bool) : Store :=
  s.setMonitor name { s.monitor name with running := running }

/-- Delivers the changes of a collection. -/
def publish (s : Store) (name : String) (changes : List Change) : Store :=
  { s with deliveries := s.deliveries ++ (s.monitor name).deliver changes }

/-! ## Writes -/

/-- Makes some writes on a collection, up to the first that is refused, and delivers the changes of
those that were made. -/
def write (s : Store) (name : String) (ws : List Write) : Except Error WriteSummary × Store :=
  let r := (s.collection name).run name ws
  let result := match r.error with
    | some e => .error e
    | none => .ok r.summary
  (result, (s.setCollection name r.collection).publish name r.changes)

/-- Adds documents under their identifiers. -/
def insertDocuments (s : Store) (name : String) (docs : List (String × Document)) :
    Except Error Unit × Store :=
  let (r, s) := s.write name (docs.map fun p => .insert p.1 p.2)
  (r.map fun _ => (), s)

/-- Replaces documents by their identifiers. -/
def replaceDocuments (s : Store) (name : String) (docs : List (String × Document))
    (upsert : Bool) : Except Error WriteSummary × Store :=
  s.write name (docs.map fun p => .replace p.1 p.2 upsert)

/-- Removes documents by their identifiers and counts them. -/
def deleteDocuments (s : Store) (name : String) (ids : List String) :
    Except Error Nat × Store :=
  let (r, s) := s.write name (ids.map .delete)
  (r.map (·.deleted), s)

/-! ## Reads -/

/-- The documents with some identifiers, in the order of the identifiers. -/
def getDocuments (s : Store) (name : String) (ids : List String) : List Document :=
  ids.filterMap (s.collection name).find?

/-- The documents that a filter means. -/
def findDocuments (s : Store) (name : String) (filter : Option Filter) :
    Except Error (List Document) :=
  selectWhere filter (s.documents name)

/-- The number of documents that a filter means. -/
def countDocuments (s : Store) (name : String) (filter : Option Filter) : Except Error Nat :=
  (s.findDocuments name filter).map List.length

/-- Runs a pipeline on the documents of a collection. -/
def aggregate (s : Store) (name : String) (p : Pipeline) : Except Error (List Document) :=
  p.run s.shuffle (s.documents name)

/-! ## Collections and indexes -/

/-- Makes sure that there is a collection of a name. -/
def createCollection (s : Store) (name : String) : Store :=
  s.setCollection name (s.collection name)

/-- Removes a collection with all that it holds. -/
def dropCollection (s : Store) (name : String) : Store :=
  if s.collections.contains name then
    { s with collections := s.collections.erase name }.publish name
      [.ofDocument name .drop none]
  else s

/-- The names of the collections, in alphabetical order. -/
def listCollections (s : Store) : List String :=
  s.collections.keys.mergeSort fun a b => decide (a ≤ b)

/-- Declares an index on a field of a collection. -/
def addIndex (s : Store) (name field : String) (unique : Bool) : Except Error Unit × Store :=
  match (s.collection name).addIndex name ⟨field, unique⟩ with
  | .ok c => (.ok (), s.setCollection name c)
  | .error e => (.error e, s.createCollection name)

/-- Removes the index on a field of a collection. -/
def dropIndex (s : Store) (name field : String) : Except Error Unit × Store :=
  match s.collections.get? name with
  | none => (.error (.collectionNotFound name), s)
  | some c =>
    match c.dropIndex field with
    | .ok c => (.ok (), s.setCollection name c)
    | .error e => (.error e, s)

/-- A store with some collections and some indexes on a field of a collection each. The
collections come first. -/
def build (collections : List String) (indexes : List (String × Index)) :
    Except Error Store :=
  let s := collections.foldl createCollection empty
  indexes.foldlM
    (fun s i =>
      let (r, s) := s.addIndex i.1 i.2.field i.2.unique
      r.map fun _ => s) s

end Store

end DocumentDb.Memory
