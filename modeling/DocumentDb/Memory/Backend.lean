import DocumentDb.Backend
import DocumentDb.Memory.Store

/-!
# The memory as a backend

The operations of `Store` as a table of actions. Reading leaves the store as it is, and a cursor
holds documents only, since a pipeline fails before its first document or not at all.
-/

namespace DocumentDb.Memory

namespace Store

variable {α : Type}

/-- An action that only looks at the store. -/
def read (f : Store → Except Error α) : Action Store α :=
  fun s => (f s, s)

/-- An action that cannot fail. -/
def update (f : Store → Store) : Action Store Unit :=
  fun s => (.ok (), f s)

end Store

/-- The backend whose state is a store in memory. -/
def backend : Backend Store where
  insert name docs s := s.insertDocuments name docs
  replace name docs upsert s := s.replaceDocuments name docs upsert
  delete name ids s := s.deleteDocuments name ids
  get name ids := Store.read fun s => .ok (s.getDocuments name ids)
  find name filter := Store.read fun s => s.findDocuments name filter
  count name filter := Store.read fun s => s.countDocuments name filter
  aggregate name p := Store.read fun s => (s.aggregate name p).map (List.map Except.ok)
  bulkWrite name ws s := s.write name ws
  createCollection name := Store.update fun s => s.createCollection name
  dropCollection name := Store.update fun s => s.dropCollection name
  listCollections := Store.read fun s => .ok s.listCollections
  addIndex name field unique s := s.addIndex name field unique
  dropIndex name field s := s.dropIndex name field

end DocumentDb.Memory
