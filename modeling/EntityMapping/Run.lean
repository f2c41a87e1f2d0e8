/-
Module: EntityMapping.Run
Purpose: A run of the program: its words are read, then its settings, then its command is carried
  out.
Main exports: RunError, Outcome, Arguments.pathsRead, run
-/
import EntityMapping.Arguments

namespace EntityMapping

/-- Why a run fails. -/
inductive RunError where
  | usage (cause : UsageError)
  | settings (cause : SettingsError)
  | command (cause : CommandError)
deriving DecidableEq, Repr

/-- The error in words. -/
def RunError.message : RunError → String
  | .usage cause => cause.name
  | .settings cause => cause.message
  | .command cause => cause.message

/-- What a run answers. -/
structure Outcome where
  logLevel : String
  output : String
deriving DecidableEq, Repr

/-- The paths that a run on some words may read: that of its settings and that of its schema. -/
def Arguments.pathsRead (words : List String) : List String :=
  match Arguments.ofWords words with
  | .error _ => []
  | .ok arguments =>
      let schema :=
        match arguments.command with
        | .entities command => [command.source.file]
        | .relations command => [command.source.file]
        | .unknown _ => []
      arguments.config.getD Settings.fileName :: schema

/-- Runs the program that is called with some words. -/
def run (files : Files) (words : List String) : Except RunError Outcome :=
  match Arguments.ofWords words with
  | .error cause => .error (.usage cause)
  | .ok arguments =>
      match Settings.forRun files arguments.config with
      | .error cause => .error (.settings cause)
      | .ok settings =>
          match arguments.command.run files settings arguments.format with
          | .error cause => .error (.command cause)
          | .ok output =>
              .ok {
                logLevel := arguments.logLevel.getD settings.effectiveLogLevel
                output := output }

end EntityMapping
