/-
Module: EntityMapping.Settings
Purpose: The settings that a configuration file may give.
Main exports: Settings, Settings.fileName, Settings.forRun, SettingsError
-/
import EntityMapping.Decoding.Record
import EntityMapping.Engine
import EntityMapping.Files

namespace EntityMapping

open Decoding
open Json (Document Tree nestingLimit)

/-- The settings of a run. Each may be absent. -/
structure Settings where
  database : Option String := none
  schema : Option String := none
  logLevel : Option String := none
deriving DecidableEq, Repr, Inhabited

/-- Why a configuration file gives no settings. -/
inductive SettingsError where
  | unreadable (path : String) (fault : ReadFault)
  | invalid (path : String) (cause : DecodeError)
deriving DecidableEq, Repr

/-- The error in words. -/
def SettingsError.message : SettingsError → String
  | .unreadable path fault => "Failed to read config '" ++ path ++ "': " ++ fault.message
  | .invalid path cause => "Invalid JSON in config '" ++ path ++ "': " ++ cause.message

namespace Settings

/-- The configuration file that is read when none is named. -/
def fileName : String := ".prisma_entities.json"

/-- The log level when none is given. -/
def standardLogLevel : String := "warn"

/-- The schema identifier of a run. -/
def effectiveSchema (settings : Settings) : String :=
  settings.schema.getD Engine.schema

/-- The log level of a run. -/
def effectiveLogLevel (settings : Settings) : String :=
  settings.logLevel.getD standardLogLevel

/-- A string of a text, or null for none. -/
def optionalText : Tree → Except DecodeError (Option String)
  | .scalar .null => .ok none
  | tree => do
      let text ← textOfTree tree
      return some text

/-- The settings of a text. -/
def record (_room : Nat) : Record Tree Settings where
  title := "struct ConfigFile"
  blank := {}
  fields := [
    { name := "database", required := false, read := fun tree => do
        let database ← optionalText tree
        return fun settings => { settings with database := database } },
    { name := "schema", required := false, read := fun tree => do
        let schema ← optionalText tree
        return fun settings => { settings with schema := schema } },
    { name := "log_level", required := false, read := fun tree => do
        let logLevel ← optionalText tree
        return fun settings => { settings with logLevel := logLevel } }]

/-- The settings that a text holds. -/
def ofText (text : String) : Except DecodeError Settings :=
  (Document.ofText text).decode (Record.ofTree nestingLimit record)

/-- The settings that a file holds. -/
def ofFile (files : Files) (path : String) : Except SettingsError Settings :=
  match files.readText path with
  | .error fault => .error (.unreadable path fault)
  | .ok text =>
      match ofText text with
      | .error cause => .error (.invalid path cause)
      | .ok settings => .ok settings

/-- The settings of a run: those of the file that is named, else those of the usual file if there
is one. -/
def forRun (files : Files) : Option String → Except SettingsError Settings
  | some path => ofFile files path
  | none => if files.has fileName then ofFile files fileName else .ok {}

end Settings

end EntityMapping
