import DocumentDb.Backend
import DocumentDb.Remote.ClientError

/-!
# Sessions with a server

A session is the record of what was asked of a server, together with the replies that the server is
going to give. A request uses up one reply, and so does every further look at a cursor that the
server holds open. When there are no replies left, the server answers with an empty success.

**Cursors.** The documents of a cursor come in batches. An error in the place of a batch comes
behind the documents of the batches before it and ends the cursor.
-/

namespace DocumentDb.Remote

/-! ## Requests and replies -/

/-- What a server is asked to do in a database. -/
inductive Command where
  | insert (collection : String) (documents : List Document)
  /-- Replaces a document that the query means. -/
  | update (collection : String) (query replacement : Document) (upsert : Bool)
  /-- Removes documents that the query means; all of them if the limit is zero. -/
  | delete (collection : String) (query : Document) (limit : Nat)
  | find (collection : String) (filter : Document)
  | aggregate (collection : String) (stages : List Document)
  | create (collection : String)
  | drop (collection : String)
  | listCollections
  | createIndexes (collection : String) (key : Document) (name : String) (unique : Bool)
  | dropIndexes (collection name : String)

/-- A command for a database. -/
structure Request where
  database : String
  command : Command

/-- What a server answers. -/
structure Reply where
  /-- The server refuses the command. -/
  error : Option Complaint := none
  /-- The reply lacks what a write or a cursor needs. -/
  malformed : Bool := false
  /-- The number of documents that a write is about. -/
  count : Nat := 0
  modified : Nat := 0
  /-- The write added a document. -/
  upserted : Bool := false
  writeError : Option Complaint := none
  /-- The writes that the server refuses behind the first one. -/
  furtherWriteErrors : List Complaint := []
  writeConcernError : Option Complaint := none
  documents : List Document := []
  /-- The cursor has more documents. -/
  isOpen : Bool := false

/-- What was asked of a server and what it is going to answer. -/
structure Session where
  replies : List Reply := []
  sent : List Request := []

/-- A computation in a session. -/
abbrev Exchange (α : Type) := ExceptT ClientError (StateM Session) α

/-- The same computation with the errors that operations fail with. -/
def Exchange.native {α : Type} (x : Exchange α) : Action Session α :=
  fun s =>
    let (r, s) := x s
    (r.mapError ClientError.native, s)

/-- Notes a request and takes the next reply. -/
def Session.exchange (s : Session) (r : Request) : Reply × Session :=
  match s.replies with
  | [] => ({}, { s with sent := s.sent ++ [r] })
  | reply :: rest => (reply, { replies := rest, sent := s.sent ++ [r] })

/-- Sends a request; fails if the server refuses the command. -/
def send (r : Request) : Exchange Reply := do
  let reply ← ExceptT.lift (modifyGet fun s => s.exchange r)
  match reply.error with
  | some c => throw (.command c)
  | none => return reply

/-! ## Cursors -/

namespace Reply

/-- The error for a reply that lacks what it must hold. -/
def incomplete : ClientError :=
  .invalidReply "a member is missing"

/-- The documents of a batch. -/
def batch (r : Reply) : Except ClientError (List Document) :=
  match r.error with
  | some c => .error (.command c)
  | none => if r.malformed then .error incomplete else .ok r.documents

end Reply

/-- The documents of the batches that the replies hold for a cursor, and the replies left. -/
def drain : List Reply → List (Except ClientError Document) × List Reply
  | [] => ([], [])
  | r :: rs =>
    match r.batch with
    | .error e => ([.error e], rs)
    | .ok docs =>
      if r.isOpen then
        let (items, left) := drain rs
        (docs.map .ok ++ items, left)
      else (docs.map .ok, rs)

/-- The documents of a cursor behind its first batch. -/
def Session.pullRest (s : Session) : List (Except ClientError Document) × Session :=
  let (items, left) := drain s.replies
  (items, { s with replies := left })

/-- Sends a request for a cursor and gives everything that the cursor delivers. -/
def openCursor (r : Request) : Exchange (List (Except ClientError Document)) := do
  let reply ← send r
  let docs ← MonadExcept.ofExcept reply.batch
  let rest ← if reply.isOpen then ExceptT.lift (modifyGet Session.pullRest) else pure []
  return docs.map .ok ++ rest

/-- Sends a request for a cursor and gives all documents, or the first error. -/
def readAll (r : Request) : Exchange (List Document) := do
  MonadExcept.ofExcept (collect (← openCursor r))

/-! ## Writes -/

namespace Reply

/-- The writes that the server refuses. -/
def writeErrors (r : Reply) : List Complaint :=
  r.writeError.toList ++ r.furtherWriteErrors

/-- The failure of a write: a refused write goes before a missing acknowledgement. -/
def checkWrite (r : Reply) : Except ClientError Unit :=
  if r.malformed then .error incomplete
  else
    match r.writeErrors, r.writeConcernError with
    | c :: _, _ => .error (.write c)
    | [], some c => .error (.writeConcern c)
    | [], none => .ok ()

/-- The failure of an insert of many documents. -/
def checkInserts (r : Reply) : Except ClientError Unit :=
  if r.malformed then .error incomplete
  else
    match r.writeErrors, r.writeConcernError with
    | [], none => .ok ()
    | [], some c => .error (.insertMany none (some c))
    | c :: cs, concern => .error (.insertMany (some (c :: cs)) concern)

/-- What a replacement did: it either added a document or found some. -/
def updateSummary (r : Reply) : WriteSummary where
  matched := if r.upserted then 0 else r.count
  modified := r.modified
  upserted := if r.upserted then 1 else 0

end Reply

end DocumentDb.Remote
