import DocumentDb.Remote.Database
import DocumentDb.Text.Numeral
import DocumentDb.Text.Split

/-!
# Connections

A connection string names the hosts of a server behind `mongodb://`, and options behind a question
mark. Setting up a store checks the string; nothing is connected before the first request.
-/

namespace DocumentDb.Remote

/-- What stands before the hosts in a connection string. -/
def connectionScheme : String := "mongodb://"

/-- Whether some characters are the number of a socket, from 1 to 65535. -/
def isSocketNumber (cs : List Char) : Bool :=
  match Text.natOfText? (String.ofList cs) with
  | some n => n != 0 && n < UInt16.size
  | none => false

/-- Whether some characters name a host, with the number of a socket behind a colon or without. -/
def isHost (cs : List Char) : Bool :=
  match Text.splitChars ':' cs with
  | [name] => !name.isEmpty
  | [name, socket] => !name.isEmpty && isSocketNumber socket
  | _ => false

/-- What a connection string says. -/
structure ConnectionString where
  hosts : List String
  options : Assoc String

namespace ConnectionString

/-- The hosts in the characters between the scheme and the options. -/
def hostsOf (cs : List Char) : List (List Char) :=
  let place := cs.takeWhile fun c => c != '/' && c != '?'
  Text.splitChars ',' ((Text.splitChars '@' place).getLastD [])

/-- The options in the characters behind the scheme. -/
def optionsOf (cs : List Char) : Assoc String :=
  let pairs := Text.splitChars '&' ((cs.dropWhile (· != '?')).drop 1)
  Assoc.ofList <| pairs.map fun p =>
    (String.ofList (p.takeWhile (· != '=')), String.ofList ((p.dropWhile (· != '=')).drop 1))

/-- Reads a connection string. -/
def parse (s : String) : Except ClientError ConnectionString :=
  let cs := s.toList
  if connectionScheme.toList.isPrefixOf cs then
    let rest := cs.drop connectionScheme.length
    let hosts := hostsOf rest
    if hosts.all isHost then .ok ⟨hosts.map String.ofList, optionsOf rest⟩
    else .error (.invalidArgument "a host is missing or malformed")
  else .error (.invalidArgument ("a connection string begins with " ++ connectionScheme))

end ConnectionString

/-- A database behind a connection, and the name by which the client introduces itself. -/
structure Connection where
  database : Database
  applicationName : Option String

/-- What is needed to set up a connection. -/
structure ConnectionSettings where
  address : String
  database : String
  applicationName : Option String := none
  maxPoolSize : Option Nat := none

/-- Sets up a connection. The name given with the settings goes before the one in the connection
string. -/
def ConnectionSettings.build (s : ConnectionSettings) : Except Error Connection :=
  match ConnectionString.parse s.address with
  | .ok c => .ok ⟨⟨s.database⟩, s.applicationName.or (c.options.get? "appName")⟩
  | .error e => .error e.initialization

end DocumentDb.Remote
