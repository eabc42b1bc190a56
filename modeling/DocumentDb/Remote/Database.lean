import DocumentDb.Expression.Render
import DocumentDb.Pipeline.Render
import DocumentDb.Remote.Session

/-!
# Databases on a server

The operations of a store, as requests to a server. Filters and pipelines are sent as they are
rendered, and one that has no rendering is refused before anything is sent.

**Writes** of several documents are one request each, in order, up to the first that fails; only a
plain insert sends all its documents at once.

**Identifiers.** Every document is sent with the identifier that the write gives it. Documents are
read back by the identifiers that the server returns, whatever their order: of several documents
with one identifier the last counts, and each is given once.
-/

namespace DocumentDb.Remote

/-- A database on a server. -/
structure Database where
  name : String

/-- The query for the document with an identifier. -/
def idQuery (id : String) : Document :=
  Document.single idKey (.string id)

/-- The query for the documents with some identifiers. -/
def idsQuery (ids : List String) : Document :=
  Document.single idKey (.document (Document.single "$in" (.array (ids.map .string))))

/-- The query document of an optional filter; without one, everything is meant. -/
def filterDocument : Option Filter → Except Error Document
  | some f => f.render
  | none => .ok []

/-- The name of the index on a field. -/
def indexName (field : String) : String :=
  field ++ "_1"

/-- Whether a document cannot be told from a list of changes. -/
def readsAsChanges (d : Document) : Bool :=
  match d with
  | (key, _) :: _ => startsWithDollar key
  | [] => false

namespace Database

/-- A command for this database. -/
def request (db : Database) (c : Command) : Request :=
  ⟨db.name, c⟩

/-! ## Single writes -/

/-- Replaces one document. -/
def replaceOne (db : Database) (collection id : String) (d : Document) (upsert : Bool) :
    Exchange WriteSummary := do
  let d := d.withId id
  if readsAsChanges d then
    throw (.invalidArgument "a replacement must not hold update operators")
  let reply ← send (db.request (.update collection (idQuery id) d upsert))
  MonadExcept.ofExcept reply.checkWrite
  return reply.updateSummary

/-- Adds one document. -/
def insertOne (db : Database) (collection id : String) (d : Document) :
    Exchange WriteSummary := do
  let reply ← send (db.request (.insert collection [d.withId id]))
  MonadExcept.ofExcept reply.checkWrite
  return { inserted := 1 }

/-- Removes one document. -/
def deleteOne (db : Database) (collection id : String) : Exchange WriteSummary := do
  let reply ← send (db.request (.delete collection (idQuery id) 1))
  MonadExcept.ofExcept reply.checkWrite
  return { deleted := reply.count }

/-- Makes one write. -/
def writeOne (db : Database) (collection : String) : Write → Exchange WriteSummary
  | .insert id d => db.insertOne collection id d
  | .replace id d upsert => db.replaceOne collection id d upsert
  | .delete id => db.deleteOne collection id

/-- Makes writes in order, up to the first that fails. -/
def writeAll (db : Database) (collection : String) : List Write → Exchange WriteSummary
  | [] => return .none
  | w :: ws => do
    let s ← db.writeOne collection w
    return s + (← db.writeAll collection ws)

/-! ## Operations -/

/-- Adds documents, all at once. -/
def insertDocuments (db : Database) (collection : String) (docs : List (String × Document)) :
    Action Session Unit :=
  if docs.isEmpty then return ()
  else Exchange.native do
    let reply ← send (db.request (.insert collection (docs.map fun p => p.2.withId p.1)))
    MonadExcept.ofExcept reply.checkInserts

/-- Replaces documents by their identifiers. -/
def replaceDocuments (db : Database) (collection : String) (docs : List (String × Document))
    (upsert : Bool) : Action Session WriteSummary :=
  (db.writeAll collection (docs.map fun p => .replace p.1 p.2 upsert)).native

/-- Removes documents by their identifiers and counts them. -/
def deleteDocuments (db : Database) (collection : String) (ids : List String) :
    Action Session Nat :=
  Exchange.native do
    let reply ← send (db.request (.delete collection (idsQuery ids) 0))
    MonadExcept.ofExcept reply.checkWrite
    return reply.count

/-- The documents that have a textual identifier, under it. -/
def indexById (docs : List Document) : Assoc Document :=
  docs.foldl
    (fun found d =>
      match d.id? with
      | some id => found.insert id d
      | none => found) []

/-- Takes the documents with some identifiers, each of them once. -/
def takeByIds (found : Assoc Document) : List String → List Document
  | [] => []
  | id :: ids =>
    match found.get? id with
    | some d => d :: takeByIds (found.erase id) ids
    | none => takeByIds found ids

/-- The documents with some identifiers, in the order of the identifiers. -/
def getDocuments (db : Database) (collection : String) (ids : List String) :
    Action Session (List Document) :=
  Exchange.native do
    let docs ← readAll (db.request (.find collection (idsQuery ids)))
    return takeByIds (indexById docs) ids

/-- The documents that a filter means. -/
def findDocuments (db : Database) (collection : String) (filter : Option Filter) :
    Action Session (List Document) := do
  let query ← MonadExcept.ofExcept (filterDocument filter)
  (readAll (db.request (.find collection query))).native

/-- The stages that count the documents which a query means. -/
def countStages (query : Document) : List Document :=
  [Document.single "$match" (.document query),
    Document.single "$group" (.document
      [(idKey, .int32 1), ("n", .document (Document.single "$sum" (.int32 1)))])]

/-- The count that a batch holds in its first document; zero if it has none. -/
def countOf : List Document → Except ClientError Nat
  | [] => .ok 0
  | d :: _ =>
    match (d.get? "n").bind Value.length? with
    | some n => .ok n
    | none => .error Reply.incomplete

/-- The number of documents that a filter means. -/
def countDocuments (db : Database) (collection : String) (filter : Option Filter) :
    Action Session Nat := do
  let query ← MonadExcept.ofExcept (filterDocument filter)
  Exchange.native do
    let reply ← send (db.request (.aggregate collection (countStages query)))
    MonadExcept.ofExcept (reply.batch >>= countOf)

/-- Runs a pipeline. -/
def aggregate (db : Database) (collection : String) (p : Pipeline) : Action Session Cursor := do
  let stages ← MonadExcept.ofExcept p.render
  let items ← (openCursor (db.request (.aggregate collection stages))).native
  return items.map (Except.mapError ClientError.native)

/-- Makes writes in order, up to the first that fails. -/
def bulkWrite (db : Database) (collection : String) (ws : List Write) :
    Action Session WriteSummary :=
  (db.writeAll collection ws).native

/-- Sends a command whose reply holds nothing of interest. -/
def perform (db : Database) (c : Command) : Exchange Unit := do
  let _ ← send (db.request c)

def createCollection (db : Database) (collection : String) : Action Session Unit :=
  (db.perform (.create collection)).native

/-- The code with which a server says that there is no such collection. -/
def collectionMissingCode : Int := 26

/-- Removes a collection; that there is none is no failure. -/
def dropCollection (db : Database) (collection : String) : Action Session Unit :=
  Exchange.native <| tryCatch (db.perform (.drop collection)) fun
    | .command c => if c.code = collectionMissingCode then return () else throw (.command c)
    | e => throw e

/-- The name that a description of a collection holds. -/
def nameOf (d : Document) : Except ClientError String :=
  match (d.get? "name").bind Value.text? with
  | some name => .ok name
  | none => .error Reply.incomplete

/-- The names of the collections, in alphabetical order. -/
def listCollections (db : Database) : Action Session (List String) :=
  Exchange.native do
    let items ← openCursor (db.request .listCollections)
    let names ← MonadExcept.ofExcept (collect (items.map (· >>= nameOf)))
    return names.mergeSort fun a b => decide (a ≤ b)

/-- Declares an index on a field of a collection. -/
def addIndex (db : Database) (collection field : String) (unique : Bool) :
    Action Session Unit :=
  (db.perform (.createIndexes collection (Document.single field (.int32 1)) (indexName field)
    unique)).native

/-- Removes the index on a field of a collection. -/
def dropIndex (db : Database) (collection field : String) : Action Session Unit :=
  (db.perform (.dropIndexes collection (indexName field))).native

/-- The database as a backend. -/
def backend (db : Database) : Backend Session where
  insert := db.insertDocuments
  replace := db.replaceDocuments
  delete := db.deleteDocuments
  get := db.getDocuments
  find := db.findDocuments
  count := db.countDocuments
  aggregate := db.aggregate
  bulkWrite := db.bulkWrite
  createCollection := db.createCollection
  dropCollection := db.dropCollection
  listCollections := db.listCollections
  addIndex := db.addIndex
  dropIndex := db.dropIndex

end Database

end DocumentDb.Remote
