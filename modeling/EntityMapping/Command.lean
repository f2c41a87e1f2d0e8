/-
Module: EntityMapping.Command
Purpose: The commands: report the entities of a schema file, or the relations between them.
Main exports: Source, EntitiesCommand, RelationsCommand, Command, Command.run
-/
import EntityMapping.Report.Format
import EntityMapping.Session
import EntityMapping.Settings

namespace EntityMapping

/-- The schema file that a command reads, and the entity to which its report is restricted. -/
structure Source where
  file : String
  entity : Option String := none
deriving DecidableEq, Repr

namespace Source

/-- Whether the report includes entities of a name. -/
def includes (source : Source) (name : String) : Bool :=
  match source.entity with
  | some wanted => wanted == name
  | none => true

/-- Loads the schema in a session of its own and interprets it. -/
def interpret (files : Files) (source : Source) (stamp : Stamp) :
    Except SessionError Interpretation := do
  let session ← Session.empty.loadFile files source.file
  session.interpret stamp

end Source

/-- Reports the entities of a schema file. -/
structure EntitiesCommand where
  source : Source
  database : Option String := none
  schema : Option String := none
deriving DecidableEq, Repr

namespace EntitiesCommand

/-- The stamp of the entities: the command's own, else that of the settings. The database is the
path of the file when nothing else is given. -/
def stamp (command : EntitiesCommand) (settings : Settings) : Stamp where
  database := (command.database.or settings.database).getD command.source.file
  schema := command.schema.getD settings.effectiveSchema

/-- The report of the command. All diagnostics stay in it. -/
def report (files : Files) (settings : Settings) (command : EntitiesCommand) :
    Except SessionError EntitiesReport := do
  let stamp := command.stamp settings
  let interpretation ← command.source.interpret files stamp
  return {
    file := command.source.file
    database := stamp.database
    schema := stamp.schema
    entities := interpretation.entities.filter fun entity => command.source.includes entity.name
    diagnostics := interpretation.diagnostics }

end EntitiesCommand

/-- Reports the relations in a schema file, all or those of one cardinality. -/
structure RelationsCommand where
  source : Source
  cardinality : Option Cardinality := none
deriving DecidableEq, Repr

namespace RelationsCommand

/-- The stamp of the entities. -/
def stamp (command : RelationsCommand) (settings : Settings) : Stamp where
  database := settings.database.getD command.source.file
  schema := settings.effectiveSchema

/-- Whether the report includes an edge. -/
def includes (command : RelationsCommand) (edge : Edge) : Bool :=
  match command.cardinality with
  | some wanted => wanted == edge.cardinality
  | none => true

/-- The report of the command. -/
def report (files : Files) (settings : Settings) (command : RelationsCommand) :
    Except SessionError RelationsReport := do
  let interpretation ← command.source.interpret files (command.stamp settings)
  let entities := interpretation.entities.filter fun entity => command.source.includes entity.name
  let edges := entities.flatMap fun entity =>
    entity.relations.map (Edge.ofRelation entity.name)
  return { file := command.source.file, edges := edges.filter command.includes }

end RelationsCommand

/-- A command. A word that names none is kept with all that follows it. -/
inductive Command where
  | entities (command : EntitiesCommand)
  | relations (command : RelationsCommand)
  | unknown (words : List String)
deriving DecidableEq, Repr

/-- Why a command fails. -/
inductive CommandError where
  | session (cause : SessionError)
  | unknownCommand (name : String)
deriving DecidableEq, Repr

/-- The error in words. -/
def CommandError.message : CommandError → String
  | .session cause => cause.message
  | .unknownCommand name => "Unknown command: " ++ name

/-- Runs a command and writes its report in a format. -/
def Command.run (files : Files) (settings : Settings) (format : ReportFormat) :
    Command → Except CommandError String
  | .entities command =>
      match command.report files settings with
      | .ok report => .ok (report.render format)
      | .error cause => .error (.session cause)
  | .relations command =>
      match command.report files settings with
      | .ok report => .ok (report.render format)
      | .error cause => .error (.session cause)
  | .unknown words => .error (.unknownCommand (words.head?.getD ""))

end EntityMapping
