/-
Module: EntityMapping.Proofs.SessionHistory
Purpose: What a session holds after a run of operations follows from their history alone: the schema
  is the one that was last loaded since the session was last emptied, and the source is the file
  that was last loaded since then. An operation that fails changes nothing, and neither does an
  interpretation.
Main exports: Operation.loads?, Operation.loadsFrom?, Operation.recent, Session.Step,
  Session.perform_step, Session.performAll_eq, Session.Follows, Session.performAll_follows
-/
import EntityMapping.Session
import Mathlib.Data.List.Induction

namespace EntityMapping

/-! ### The history of a run -/

namespace Operation

variable (files : Files)

/-- The schema that an operation loads, if there is a text and the text holds one. -/
def loads? : Operation → Option Schema
  | .loadFile path =>
      (files.readText path).toOption.bind fun text => (Schema.ofText text).toOption
  | .loadText text => (Schema.ofText text).toOption
  | _ => none

/-- The path of the file that an operation loads a schema from, if it does. -/
def loadsFrom? : Operation → Option String
  | .loadFile path => (loads? files (.loadFile path)).map fun _ => path
  | _ => none

/-- Whether an operation lets the schema go. -/
def isUnload : Operation → Bool
  | .unload => true
  | _ => false

/-- The operations of a run since the schema was last let go, the last one first. -/
def recent (operations : List Operation) : List Operation :=
  operations.reverse.takeWhile fun operation => !operation.isUnload

theorem recent_append_singleton (operations : List Operation) (last : Operation) :
    recent (operations ++ [last]) = if last.isUnload then [] else last :: recent operations := by
  unfold recent
  rw [List.reverse_append, List.reverse_singleton, List.singleton_append, List.takeWhile_cons]
  cases last.isUnload <;> rfl

variable {files}

theorem loads?_of_loadsFrom? {operation : Operation} {path : String}
    (loaded : operation.loadsFrom? files = some path) :
    operation = .loadFile path ∧ (operation.loads? files).isSome := by
  cases operation with
  | loadFile other =>
      obtain ⟨schema, found, rfl⟩ := Option.map_eq_some_iff.mp loaded
      exact ⟨rfl, Option.isSome_of_mem found⟩
  | _ => simp [loadsFrom?] at loaded

theorem loadsFrom?_of_loads? {operation : Operation} (nothing : operation.loads? files = none) :
    operation.loadsFrom? files = none := by
  cases found : operation.loadsFrom? files with
  | none => rfl
  | some path => simpa [nothing] using (loads?_of_loadsFrom? found).2

theorem not_isUnload_of_loads? {operation : Operation} {schema : Schema}
    (loaded : operation.loads? files = some schema) : operation.isUnload = false := by
  cases operation with
  | unload => simp [loads?] at loaded
  | _ => rfl

end Operation

namespace Session

variable {files : Files} {session : Session}

/-! ### One operation -/

/-- What an operation can do to a session: it empties it, loads a schema, interprets the one that is
held, or fails and leaves the session as it is. -/
inductive Step (files : Files) (session : Session) (operation : Operation) :
    Session × Except SessionError (Option Interpretation) → Prop where
  | empties (unload : operation.isUnload = true) : Step files session operation (.empty, .ok none)
  | loads {schema : Schema} (loaded : operation.loads? files = some schema) :
      Step files session operation
        ({ source := (operation.loadsFrom? files).or session.source, schema := some schema },
          .ok none)
  | interprets {stamp : Stamp} {schema : Schema} (asked : operation = .interpret stamp)
      (held : session.schema = some schema) :
      Step files session operation (session, .ok (some (schema.interpret stamp)))
  | fails {cause : SessionError} (kept : operation.isUnload = false)
      (nothing : operation.loads? files = none)
      (unheld : ∀ stamp, operation = .interpret stamp →
        session.schema = none ∧ cause = .nothingLoaded) :
      Step files session operation (session, .error cause)

theorem loadText_toOption (files : Files) (session : Session) (text : String) :
    (session.loadText text).toOption =
      ((Operation.loadText text).loads? files).map fun schema =>
        { source := ((Operation.loadText text).loadsFrom? files).or session.source
          schema := some schema } := by
  unfold loadText decodeSchema
  cases decoded : Schema.ofText text with
  | error cause => simp [Operation.loads?, decoded, Except.toOption, bind, Except.bind]
  | ok schema =>
      simp [Operation.loads?, Operation.loadsFrom?, decoded, Except.toOption, bind, Except.bind,
        pure, Except.pure]

theorem loadFile_toOption (files : Files) (session : Session) (path : String) :
    (session.loadFile files path).toOption =
      ((Operation.loadFile path).loads? files).map fun schema =>
        { source := ((Operation.loadFile path).loadsFrom? files).or session.source
          schema := some schema } := by
  unfold loadFile readSchema
  cases read : files.readText path with
  | error fault => simp [Operation.loads?, read, Except.toOption, bind, Except.bind]
  | ok text =>
      unfold loadText decodeSchema
      cases decoded : Schema.ofText text with
      | error cause => simp [Operation.loads?, read, decoded, Except.toOption, bind, Except.bind]
      | ok schema =>
          simp [Operation.loads?, Operation.loadsFrom?, read, decoded, Except.toOption, bind,
            Except.bind, pure, Except.pure]

/-- Going on to what an operation loads is a step. -/
theorem advance_step {operation : Operation} {next : Except SessionError Session}
    (kept : operation.isUnload = false) (noQuestion : ∀ stamp, operation ≠ .interpret stamp)
    (loaded :
      next.toOption =
        (operation.loads? files).map fun schema =>
          { source := (operation.loadsFrom? files).or session.source, schema := some schema }) :
    session.Step files operation (session.advance next) := by
  cases next with
  | error cause =>
      have nothing : operation.loads? files = none := Option.map_eq_none_iff.mp loaded.symm
      exact .fails kept nothing fun stamp asked => absurd asked (noQuestion stamp)
  | ok after =>
      obtain ⟨schema, found, rfl⟩ := Option.map_eq_some_iff.mp loaded.symm
      exact .loads found

/-- Every operation takes one of the steps. -/
theorem perform_step (files : Files) (session : Session) (operation : Operation) :
    session.Step files operation (session.perform files operation) := by
  cases operation with
  | loadFile path => exact advance_step rfl (by simp) (session.loadFile_toOption files path)
  | loadText text => exact advance_step rfl (by simp) (session.loadText_toOption files text)
  | unload => exact .empties rfl
  | interpret stamp =>
      unfold perform interpret
      cases held : session.schema with
      | none => exact .fails rfl rfl fun _ _ => ⟨held, rfl⟩
      | some schema => exact .interprets rfl held
  | createDatabase name => exact .fails rfl rfl (by simp)
  | dropDatabase name => exact .fails rfl rfl (by simp)
  | databaseExists name => exact .fails rfl rfl (by simp)

/-- The state after an operation: a fresh one, or the one before with what the operation loads. -/
theorem perform_fst (files : Files) (session : Session) (operation : Operation) :
    (session.perform files operation).1 =
      if operation.isUnload then .empty
      else
        { source := (operation.loadsFrom? files).or session.source
          schema := (operation.loads? files).or session.schema } := by
  have step := session.perform_step files operation
  generalize session.perform files operation = after at step
  cases step with
  | empties unload => simp [unload]
  | loads found =>
      have kept : operation.isUnload = false := Operation.not_isUnload_of_loads? found
      simp [kept, found]
  | interprets asked held =>
      subst asked
      rfl
  | fails kept nothing unheld =>
      have noFile : operation.loadsFrom? files = none := Operation.loadsFrom?_of_loads? nothing
      simp [kept, nothing, noFile]

/-- An operation that fails leaves the session as it is. -/
theorem fst_of_error {operation : Operation} {cause : SessionError}
    (failed : (session.perform files operation).2 = .error cause) :
    (session.perform files operation).1 = session := by
  have step := session.perform_step files operation
  generalize session.perform files operation = after at step failed
  cases step with
  | empties unload => simp at failed
  | loads found => simp at failed
  | interprets asked held => rfl
  | fails kept nothing unheld => rfl

/-- An operation fails if it does not empty the session, loads nothing and has nothing to
interpret. -/
theorem error_iff {operation : Operation} :
    (∃ cause, (session.perform files operation).2 = .error cause) ↔
      operation.isUnload = false ∧ operation.loads? files = none ∧
        ∀ stamp, operation = .interpret stamp → session.schema = none := by
  have step := session.perform_step files operation
  generalize session.perform files operation = after at step
  cases step with
  | empties unload => simp [unload]
  | loads found => simp [found]
  | @interprets stamp schema asked held =>
      constructor
      · rintro ⟨cause, failed⟩
        simp at failed
      · rintro ⟨-, -, unheld⟩
        exact absurd (unheld stamp asked) (by simp [held])
  | @fails cause kept nothing unheld =>
      exact iff_of_true ⟨cause, rfl⟩ ⟨kept, nothing, fun stamp asked => (unheld stamp asked).1⟩

/-- A schema can only be interpreted when one is held, and then it is the one that is held. -/
theorem perform_interpret (files : Files) (session : Session) (stamp : Stamp) :
    session.perform files (.interpret stamp) =
      (session,
        match session.schema with
        | some schema => .ok (some (schema.interpret stamp))
        | none => .error .nothingLoaded) := by
  unfold perform interpret
  cases session.schema <;> rfl

/-! ### A run of operations -/

theorem performAll_append_singleton (files : Files) (session : Session)
    (operations : List Operation) (last : Operation) :
    session.performAll files (operations ++ [last]) =
      ((session.performAll files operations).perform files last).1 := by
  unfold performAll
  rw [List.foldl_append]
  rfl

/-- A run ends with the schema and the source that its recent operations load last. -/
theorem performAll_eq (files : Files) (operations : List Operation) :
    performAll files .empty operations =
      { source := (Operation.recent operations).findSome? (Operation.loadsFrom? files)
        schema := (Operation.recent operations).findSome? (Operation.loads? files) } := by
  induction operations using List.reverseRecOn with
  | nil => rfl
  | append_singleton operations last ih =>
      rw [performAll_append_singleton, perform_fst, ih, Operation.recent_append_singleton]
      cases last.isUnload with
      | true => rfl
      | false =>
          simp only [Bool.false_eq_true, if_false, List.findSome?_cons]
          cases last.loadsFrom? files <;> cases last.loads? files <;> rfl

theorem schema_performAll (files : Files) (operations : List Operation) :
    (performAll files .empty operations).schema =
      (Operation.recent operations).findSome? (Operation.loads? files) := by
  rw [performAll_eq]

theorem source_performAll (files : Files) (operations : List Operation) :
    (performAll files .empty operations).source =
      (Operation.recent operations).findSome? (Operation.loadsFrom? files) := by
  rw [performAll_eq]

/-- A source is only held with a schema: whatever loads a file loads a schema. -/
theorem isSome_schema_of_source (files : Files) (operations : List Operation)
    (held : (performAll files .empty operations).source.isSome) :
    (performAll files .empty operations).schema.isSome := by
  rw [source_performAll] at held
  rw [schema_performAll]
  obtain ⟨operation, listed, found⟩ := List.findSome?_isSome_iff.mp held
  obtain ⟨path, loaded⟩ := Option.isSome_iff_exists.mp found
  exact List.findSome?_isSome_iff.mpr
    ⟨operation, listed, (Operation.loads?_of_loadsFrom? loaded).2⟩

/-- The session is the one that the history of a run says, and goes on as it says. -/
structure Follows (files : Files) (operations : List Operation) (session : Session) : Prop where
  /-- The schema is the last one that was loaded since the session was last emptied. -/
  schema : session.schema = (Operation.recent operations).findSome? (Operation.loads? files)
  /-- The source is the last file that was loaded since then. -/
  source : session.source = (Operation.recent operations).findSome? (Operation.loadsFrom? files)
  sourceHeld : session.source.isSome → session.schema.isSome
  /-- An operation fails if it does not empty the session, loads nothing and has nothing to
  interpret. -/
  fails_iff :
    ∀ operation, (∃ cause, (session.perform files operation).2 = .error cause) ↔
      operation.isUnload = false ∧ operation.loads? files = none ∧
        ∀ stamp, operation = .interpret stamp → session.schema = none
  failureKeeps :
    ∀ operation cause, (session.perform files operation).2 = .error cause →
      (session.perform files operation).1 = session
  interpretKeeps : ∀ stamp, (session.perform files (.interpret stamp)).1 = session
  nothingLoaded_iff :
    ∀ stamp, (session.perform files (.interpret stamp)).2 = .error .nothingLoaded ↔
      session.schema = none
  interpretation :
    ∀ stamp schema, session.schema = some schema →
      (session.perform files (.interpret stamp)).2 = .ok (some (schema.interpret stamp))

/-- After every run of operations, the session is the one that their history says. -/
theorem performAll_follows (files : Files) (operations : List Operation) :
    (performAll files .empty operations).Follows files operations := by
  constructor
  case schema => exact schema_performAll files operations
  case source => exact source_performAll files operations
  case sourceHeld => exact isSome_schema_of_source files operations
  case fails_iff => exact fun operation => error_iff
  case failureKeeps => exact fun operation cause failed => fst_of_error failed
  case interpretKeeps => exact fun stamp => rfl
  case nothingLoaded_iff =>
    intro stamp
    rw [perform_interpret]
    cases (performAll files .empty operations).schema <;> simp
  case interpretation =>
    intro stamp schema held
    rw [perform_interpret, held]

end Session

end EntityMapping
