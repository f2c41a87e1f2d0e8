/-
Module: EntityMapping.Arguments
Purpose: The words of a command line. They are read from left to right on two levels: the options
  of the program, then the word that names a command, then the options of that command. An option
  that is given without `=` takes the next word as its value and is judged when the next option
  is met or the level ends.
Main exports: UsageError, Arguments, Arguments.ofWords
-/
import EntityMapping.Command

namespace EntityMapping

/-- Why the words of a command line are not understood, or what they ask for instead of a run. -/
inductive UsageError where
  | displayHelp
  | displayVersion
  | displayHelpOnMissing
  | missingSubcommand
  | missingRequired
  | invalidValue
  | unknownArgument
  | argumentConflict
  | tooManyValues
  | invalidSubcommand
deriving DecidableEq, Repr

/-- The name of a usage error. -/
def UsageError.name : UsageError → String
  | .displayHelp => "DisplayHelp"
  | .displayVersion => "DisplayVersion"
  | .displayHelpOnMissing => "DisplayHelpOnMissingArgumentOrSubcommand"
  | .missingSubcommand => "MissingSubcommand"
  | .missingRequired => "MissingRequiredArgument"
  | .invalidValue => "InvalidValue"
  | .unknownArgument => "UnknownArgument"
  | .argumentConflict => "ArgumentConflict"
  | .tooManyValues => "TooManyValues"
  | .invalidSubcommand => "InvalidSubcommand"

/-- What a command line asks for. -/
structure Arguments where
  format : ReportFormat := .table
  config : Option String := none
  logLevel : Option String := none
  command : Command
deriving DecidableEq, Repr

namespace Arguments

/-! ### Options and levels -/

/-- The options that take a value. -/
inductive Setting where
  | format
  | config
  | logLevel
  | file
  | entity
  | database
  | schema
  | cardinality
deriving DecidableEq, Repr

/-- Whether a setting accepts a value. -/
def Setting.accepts (value : String) : Setting → Bool
  | .format => (ReportFormat.ofName? value).isSome
  | .cardinality => (Cardinality.ofDashed? value).isSome
  | .config => !value.isEmpty
  | .file => !value.isEmpty
  | _ => true

/-- The options. -/
inductive Flag where
  | takes (setting : Setting)
  | help
  | version
deriving DecidableEq, Repr

/-- The commands with options of their own. -/
inductive Subcommand where
  | entities
  | relations
deriving DecidableEq, Repr

/-- The command of a name. -/
def Subcommand.ofName? (name : String) : Option Subcommand :=
  if name = "translate" then some .entities
  else if name = "relations" then some .relations
  else none

/-- The options of all levels, by their long names. -/
def commonFlags : List (String × Flag) :=
  [("format", .takes .format), ("config", .takes .config), ("log-level", .takes .logLevel),
   ("help", .help)]

/-- The options of a level by their long names. The level of the program is `none`. -/
def longFlags : Option Subcommand → List (String × Flag)
  | none => commonFlags ++ [("version", .version)]
  | some .entities =>
      commonFlags ++ [("file", .takes .file), ("entity", .takes .entity),
        ("database", .takes .database), ("schema", .takes .schema)]
  | some .relations =>
      commonFlags ++ [("file", .takes .file), ("entity", .takes .entity),
        ("kind", .takes .cardinality)]

/-- The options of a level by their letters. -/
def shortFlags : Option Subcommand → List (Char × Flag)
  | none => [('h', .help), ('V', .version)]
  | some .entities => [('h', .help), ('f', .takes .file), ('e', .takes .entity)]
  | some .relations =>
      [('h', .help), ('f', .takes .file), ('e', .takes .entity), ('k', .takes .cardinality)]

/-! ### Reading one level -/

/-- A level part way through its words: the settings that are made, the one that is still to be
judged with the value it took, if any, and whether `--` has ended the options. -/
structure Progress where
  values : List (Setting × String) := []
  pending : Option (Setting × Option String) := none
  ended : Bool := false

namespace Progress

/-- Makes a setting: it must have a value, must not be made already, and must accept the value. -/
def set (progress : Progress) (setting : Setting) (value : Option String) :
    Except UsageError Progress :=
  match value with
  | none => .error .invalidValue
  | some value =>
      if (progress.values.lookup setting).isSome then .error .argumentConflict
      else if setting.accepts value then
        .ok { progress with values := progress.values ++ [(setting, value)] }
      else .error .invalidValue

/-- Judges the setting that is still open. -/
def settle (progress : Progress) : Except UsageError Progress :=
  match progress.pending with
  | none => .ok progress
  | some (setting, value) => set { progress with pending := none } setting value

/-- Whether the next word is a value. -/
def awaitsValue (progress : Progress) : Bool :=
  match progress.pending with
  | some (_, none) => true
  | _ => false

/-- Takes in an option, with the value that is joined to it, if any. -/
def option (progress : Progress) (setting : Setting) (joined : Option String) :
    Except UsageError Progress := do
  let progress ← progress.settle
  match joined with
  | some value => progress.set setting (some value)
  | none => return { progress with pending := some (setting, none) }

/-- Takes in a word that is a value. -/
def value (progress : Progress) (word : String) : Progress :=
  { progress with pending := progress.pending.map fun (setting, _) => (setting, some word) }

/-- An option that ends the run at once, once the open setting is judged. -/
def interrupt (progress : Progress) (answer : UsageError) : Except UsageError Progress := do
  let _ ← progress.settle
  .error answer

/-- Takes in a long option, with the text after its `=`, if any. -/
def long (progress : Progress) (level : Option Subcommand) (name : String)
    (joined : Option String) : Except UsageError Progress :=
  match (longFlags level).lookup name, joined with
  | none, _ => .error .unknownArgument
  | some (.takes setting), joined => progress.option setting joined
  | some _, some _ => .error .tooManyValues
  | some .help, none => progress.interrupt .displayHelp
  | some .version, none => progress.interrupt .displayVersion

/-- Takes in the letters after a single dash. An option that takes a value takes the rest of the
letters, with or without `=`. -/
def short (progress : Progress) (level : Option Subcommand) :
    List Char → Except UsageError Progress
  | [] => .ok progress
  | letter :: rest =>
      match (shortFlags level).lookup letter with
      | none => .error .unknownArgument
      | some (.takes setting) =>
          match rest with
          | [] => progress.option setting none
          | '=' :: value => progress.option setting (some (String.ofList value))
          | value => progress.option setting (some (String.ofList value))
      | some .help => progress.interrupt .displayHelp
      | some .version => progress.interrupt .displayVersion

end Progress

/-- What a word looks like. -/
inductive Shape where
  | endOfOptions
  | long (name : String) (joined : Option String)
  | short (letters : List Char)
  | word

/-- The shape of a word. A single dash is a plain word. -/
def Shape.of (word : String) : Shape :=
  match word.toList with
  | ['-', '-'] => .endOfOptions
  | '-' :: '-' :: rest =>
      let name := String.ofList (rest.takeWhile (· != '='))
      match rest.dropWhile (· != '=') with
      | _ :: value => .long name (some (String.ofList value))
      | [] => .long name none
  | '-' :: letter :: rest => .short (letter :: rest)
  | _ => .word

/-- Reads the words of a level up to the first that is neither an option nor a value. Returns that
word, if there is one, with whether it may name a command, and the words after it. -/
def readLevel (level : Option Subcommand) (progress : Progress) :
    List String → Except UsageError (Progress × Option (String × List String))
  | [] => .ok (progress, none)
  | word :: rest =>
      if progress.ended then .ok (progress, some (word, rest))
      else
        match Shape.of word with
        | .endOfOptions => readLevel level { progress with ended := true } rest
        | .long name joined => do
            let progress ← progress.long level name joined
            readLevel level progress rest
        | .short letters => do
            let progress ← progress.short level letters
            readLevel level progress rest
        | .word =>
            if progress.awaitsValue then readLevel level (progress.value word) rest
            else .ok (progress, some (word, rest))

/-! ### The whole line -/

/-- The command that the options of its level make. A command takes no further words, and its file
must be given. -/
def readSubcommand (name : Subcommand) (words : List String) :
    Except UsageError (Progress × Command) := do
  let (progress, surplus) ← readLevel (some name) {} words
  if surplus.isSome then .error .unknownArgument
  let progress ← progress.settle
  let value (setting : Setting) : Option String := progress.values.lookup setting
  match value .file with
  | none => .error .missingRequired
  | some file =>
      let source : Source := { file := file, entity := value .entity }
      match name with
      | .entities =>
          return (progress,
            .entities {
              source := source, database := value .database, schema := value .schema })
      | .relations =>
          return (progress,
            .relations {
              source := source, cardinality := (value .cardinality).bind Cardinality.ofDashed? })

/-- The answer to a request for help: the words after it may name one command. -/
def answerHelp : List String → UsageError
  | [] => .displayHelp
  | [name] =>
      if name = "help" ∨ (Subcommand.ofName? name).isSome then .displayHelp
      else .invalidSubcommand
  | _ => .invalidSubcommand

/-- The arguments that the settings of both levels make; those of the command win. -/
def combine (outer inner : Progress) (command : Command) : Arguments :=
  let value (setting : Setting) : Option String :=
    (inner.values.lookup setting).or (outer.values.lookup setting)
  { format := ((value .format).bind ReportFormat.ofName?).getD .table
    config := value .config
    logLevel := value .logLevel
    command := command }

/-- What the words of a command line ask for. Faults of a command are told before an open setting
of the program is judged. -/
def ofWords (words : List String) : Except UsageError Arguments := do
  let (outer, next) ← readLevel none {} words
  match next with
  | none => do
      let outer ← outer.settle
      if outer.values.isEmpty then .error .displayHelpOnMissing
      else .error .missingSubcommand
  | some (word, rest) =>
      let named := if outer.ended then none else Subcommand.ofName? word
      if word = "help" ∧ !outer.ended then .error (answerHelp rest)
      else
        match named with
        | some name => do
            let (inner, command) ← readSubcommand name rest
            let outer ← outer.settle
            return combine outer inner command
        | none => do
            let outer ← outer.settle
            return combine outer {} (.unknown (word :: rest))

end Arguments

end EntityMapping
