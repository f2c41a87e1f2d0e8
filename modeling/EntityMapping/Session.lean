/-
Module: EntityMapping.Session
Purpose: A session with the engine: a schema is loaded, interpreted and let go. There is no server
  behind it, so databases cannot be managed.
Main exports: Session, SessionError, Operation, Session.perform
-/
import EntityMapping.Files
import EntityMapping.Interpretation.Basic
import EntityMapping.Schema.Reader

namespace EntityMapping

/-- Why an operation of a session fails. -/
inductive SessionError where
  | unreadable (path : String) (fault : ReadFault)
  | invalid (cause : DecodeError)
  | nothingLoaded
  | notSupported (operation : String)
deriving DecidableEq, Repr

/-- The error in words. -/
def SessionError.message : SessionError → String
  | .unreadable path fault => "Failed to read schema '" ++ path ++ "': " ++ fault.message
  | .invalid cause => "Invalid declaration tree: " ++ cause.message
  | .nothingLoaded => "No schema loaded, call connect first"
  | .notSupported operation => operation ++ " is not supported by the Prisma driver"

/-- The schema that is loaded, and the path of the file that was last loaded. -/
structure Session where
  source : Option String := none
  schema : Option Schema := none

/-- The schema that a text holds, for a session. -/
def decodeSchema (text : String) : Except SessionError Schema :=
  match Schema.ofText text with
  | .ok schema => .ok schema
  | .error cause => .error (.invalid cause)

/-- The text of a schema file, for a session. -/
def readSchema (files : Files) (path : String) : Except SessionError String :=
  match files.readText path with
  | .ok text => .ok text
  | .error fault => .error (.unreadable path fault)

namespace Session

/-- Nothing is loaded. -/
def empty : Session := {}

/-- Whether a schema is loaded. -/
def isLoaded (session : Session) : Bool :=
  session.schema.isSome

/-- Loads the schema that a text holds. The source stays what it was. -/
def loadText (session : Session) (text : String) : Except SessionError Session := do
  let schema ← decodeSchema text
  return { session with schema := some schema }

/-- Loads the schema of a file. -/
def loadFile (files : Files) (session : Session) (path : String) : Except SessionError Session := do
  let text ← readSchema files path
  let session ← session.loadText text
  return { session with source := some path }

/-- Lets the schema go. -/
def unload (_ : Session) : Session := empty

/-- Interprets the schema that is loaded. -/
def interpret (session : Session) (stamp : Stamp) : Except SessionError Interpretation :=
  match session.schema with
  | some schema => .ok (schema.interpret stamp)
  | none => .error .nothingLoaded

end Session

/-- What can be asked of a session. -/
inductive Operation where
  | loadFile (path : String)
  | loadText (text : String)
  | unload
  | interpret (stamp : Stamp)
  | createDatabase (name : String)
  | dropDatabase (name : String)
  | databaseExists (name : String)

namespace Session

/-- Goes on to a new state, or stays where it is with an error. -/
def advance (session : Session) (next : Except SessionError Session) :
    Session × Except SessionError (Option Interpretation) :=
  match next with
  | .ok after => (after, .ok none)
  | .error cause => (session, .error cause)

/-- Performs an operation: the state after it, and its result. -/
def perform (files : Files) (session : Session) :
    Operation → Session × Except SessionError (Option Interpretation)
  | .loadFile path => session.advance (session.loadFile files path)
  | .loadText text => session.advance (session.loadText text)
  | .unload => (session.unload, .ok none)
  | .interpret stamp => (session, (session.interpret stamp).map some)
  | .createDatabase _ => (session, .error (.notSupported "create_db"))
  | .dropDatabase _ => (session, .error (.notSupported "drop_db"))
  | .databaseExists _ => (session, .error (.notSupported "check_if_db_exists"))

/-- The state after a sequence of operations. -/
def performAll (files : Files) (session : Session) (operations : List Operation) : Session :=
  operations.foldl (fun session operation => (session.perform files operation).1) session

end Session

end EntityMapping
