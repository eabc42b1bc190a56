import DocumentDb.Error

/-!
# Errors of a client

What can go wrong between a client and its server: the server refuses a command, a write or the
acknowledgement of a write, or the client has trouble of its own.

**Codes.** What the server refuses carries a code. Of an insert of many documents the first refused
write counts, and a missing acknowledgement alone gives no code.
-/

namespace DocumentDb.Remote

/-- A code of the server with its explanation. -/
structure Complaint where
  code : Int
  message : String
deriving DecidableEq

/-- An error of a client. -/
inductive ClientError where
  /-- The server refuses a command. -/
  | command (c : Complaint)
  /-- The server refuses a write. -/
  | write (c : Complaint)
  /-- The server made a write that was not acknowledged as asked. -/
  | writeConcern (c : Complaint)
  /-- The writes that the server refuses of an insert of many documents, if it lists them, and the
  acknowledgement that is missing. -/
  | insertMany (writes : Option (List Complaint)) (concern : Option Complaint)
  | transport (message : String)
  /-- A reply lacks what it must hold. -/
  | invalidReply (message : String)
  /-- The client does not send what it was asked to send. -/
  | invalidArgument (message : String)
  | custom (message : String)
deriving DecidableEq

namespace ClientError

/-- The code that the server gave. -/
def serverCode : ClientError → Option Int
  | command c | write c | writeConcern c => some c.code
  | insertMany (some (c :: _)) _ => some c.code
  | _ => none

/-- The wording of an error. -/
def text : ClientError → String
  | command c => "Command failed: " ++ c.message
  | write c => "Write failed: " ++ c.message
  | writeConcern c => "Write not acknowledged: " ++ c.message
  | insertMany writes concern =>
    "Insert failed: "
      ++ String.intercalate ", " ((writes.getD [] ++ concern.toList).map Complaint.message)
  | transport message | custom message => message
  | invalidReply message => "Invalid reply: " ++ message
  | invalidArgument message => "Invalid argument: " ++ message

/-- The error that an operation fails with. -/
def native (e : ClientError) : Error :=
  .native e.serverCode e.text

/-- The error that setting up a store fails with. -/
def initialization (e : ClientError) : Error :=
  .initialization e.text

end ClientError

end DocumentDb.Remote
