/-
Module: EntityMapping.Proofs.SessionSource
Purpose: When the source of a session belongs to its schema. The source is the file that was last
  loaded, and a text that is loaded after it replaces the schema but not the source. So the source
  belongs to the schema exactly when no text was loaded over a file.
Main exports: Operation.lastLoad?, Operation.TextOverFile, Session.SourceBelongs,
  Session.sourceBelongs_iff
-/
import EntityMapping.Proofs.SessionHistory

namespace EntityMapping

/-! ### The last load of a run -/

namespace Operation

/-- The operation that loaded the schema which is held at the end of a run, if one is held. -/
def lastLoad? (files : Files) (operations : List Operation) : Option Operation :=
  (recent operations).find? fun operation => (operation.loads? files).isSome

/-- A text was loaded last, and a file before it. -/
def TextOverFile (files : Files) (operations : List Operation) : Prop :=
  (∃ text, lastLoad? files operations = some (.loadText text)) ∧
    ∃ operation ∈ recent operations, (operation.loadsFrom? files).isSome

variable {files : Files} {operations : List Operation} {last : Operation}

/-- Nothing after the last load loads anything. -/
theorem recent_of_lastLoad? (loaded : lastLoad? files operations = some last) :
    (last.loads? files).isSome ∧
      ∃ newer older, recent operations = newer ++ last :: older ∧
        ∀ operation ∈ newer, operation.loads? files = none := by
  obtain ⟨loads, newer, older, split, nothing⟩ := List.find?_eq_some_iff_append.mp loaded
  exact ⟨loads, newer, older, split, by simpa using nothing⟩

theorem exists_lastLoad? {operation : Operation} (listed : operation ∈ recent operations)
    (loads : (operation.loads? files).isSome) :
    ∃ last, lastLoad? files operations = some last := by
  apply Option.isSome_iff_exists.mp
  rw [lastLoad?, List.find?_isSome]
  exact ⟨operation, listed, loads⟩

/-- The last load is of a file or of a text. -/
theorem lastLoad?_cases (loaded : lastLoad? files operations = some last) :
    (∃ path, last = .loadFile path) ∨ ∃ text, last = .loadText text := by
  have loads := (recent_of_lastLoad? loaded).1
  cases last with
  | loadFile path => exact Or.inl ⟨path, rfl⟩
  | loadText text => exact Or.inr ⟨text, rfl⟩
  | _ => simp [loads?] at loads

end Operation

namespace Session

variable {files : Files} {operations : List Operation}

/-- The schema that is held after a run is the one of its last load. -/
theorem schema_of_lastLoad? {last : Operation}
    (loaded : Operation.lastLoad? files operations = some last) :
    (performAll files .empty operations).schema = last.loads? files := by
  obtain ⟨loads, newer, older, split, nothing⟩ := Operation.recent_of_lastLoad? loaded
  obtain ⟨schema, found⟩ := Option.isSome_iff_exists.mp loads
  have before : newer.findSome? (Operation.loads? files) = none :=
    List.findSome?_eq_none_iff.mpr nothing
  rw [schema_performAll, split, List.findSome?_append, before, List.findSome?_cons, found]
  rfl

/-- If the last load of a run is from a file, that file is the source. -/
theorem source_of_lastLoad? {path : String}
    (loaded : Operation.lastLoad? files operations = some (.loadFile path)) :
    (performAll files .empty operations).source = some path := by
  obtain ⟨loads, newer, older, split, nothing⟩ := Operation.recent_of_lastLoad? loaded
  obtain ⟨schema, found⟩ := Option.isSome_iff_exists.mp loads
  have before : newer.findSome? (Operation.loadsFrom? files) = none :=
    List.findSome?_eq_none_iff.mpr fun operation listed =>
      Operation.loadsFrom?_of_loads? (nothing operation listed)
  have fromFile : (Operation.loadFile path).loadsFrom? files = some path := by
    simp [Operation.loadsFrom?, found]
  rw [source_performAll, split, List.findSome?_append, before, List.findSome?_cons, fromFile]
  rfl

/-- There is a source exactly when a file was loaded. -/
theorem isSome_source_iff :
    (performAll files .empty operations).source.isSome ↔
      ∃ operation ∈ Operation.recent operations, (operation.loadsFrom? files).isSome := by
  rw [source_performAll, List.findSome?_isSome_iff]

/-! ### Whether the source belongs to the schema -/

/-- After a run of operations the source belongs to the schema. -/
structure SourceBelongs (files : Files) (operations : List Operation) : Prop where
  /-- The file that the source names holds the schema. -/
  holdsSchema :
    ∀ path, (performAll files .empty operations).source = some path →
      ∃ text schema, files.readText path = .ok text ∧ Schema.ofText text = .ok schema ∧
        (performAll files .empty operations).schema = some schema
  /-- A schema that was loaded from a text has no source. -/
  noneForText :
    ∀ text, Operation.lastLoad? files operations = some (.loadText text) →
      (performAll files .empty operations).source = none

theorem toOption_eq_some_iff {ε α : Type} {result : Except ε α} {a : α} :
    result.toOption = some a ↔ result = .ok a := by
  cases result <;> simp [Except.toOption]

/-- What a file loads is what its text holds. -/
theorem readText_of_loads? {path : String} {schema : Schema}
    (loads : (Operation.loadFile path).loads? files = some schema) :
    ∃ text, files.readText path = .ok text ∧ Schema.ofText text = .ok schema := by
  obtain ⟨text, read, decoded⟩ := Option.bind_eq_some_iff.mp loads
  exact ⟨text, toOption_eq_some_iff.mp read, toOption_eq_some_iff.mp decoded⟩

theorem sourceBelongs_of_not_textOverFile (apart : ¬ Operation.TextOverFile files operations) :
    SourceBelongs files operations := by
  constructor
  case holdsSchema =>
    intro path named
    obtain ⟨operation, listed, fromFile⟩ := isSome_source_iff.mp (Option.isSome_of_mem named)
    obtain ⟨other, loaded⟩ := Option.isSome_iff_exists.mp fromFile
    obtain ⟨last, lastLoad⟩ :=
      Operation.exists_lastLoad? listed (Operation.loads?_of_loadsFrom? loaded).2
    rcases Operation.lastLoad?_cases lastLoad with ⟨path', rfl⟩ | ⟨text, rfl⟩
    · have samePath : path' = path :=
        Option.some.inj ((source_of_lastLoad? lastLoad).symm.trans named)
      subst samePath
      obtain ⟨schema, found⟩ :=
        Option.isSome_iff_exists.mp (Operation.recent_of_lastLoad? lastLoad).1
      obtain ⟨text, read, decoded⟩ := readText_of_loads? found
      exact ⟨text, schema, read, decoded, (schema_of_lastLoad? lastLoad).trans found⟩
    · exact absurd ⟨⟨text, lastLoad⟩, operation, listed, fromFile⟩ apart
  case noneForText =>
    intro text lastLoad
    by_contra named
    exact apart ⟨⟨text, lastLoad⟩, isSome_source_iff.mp (Option.isSome_iff_ne_none.mpr named)⟩

theorem not_sourceBelongs_of_textOverFile (hidden : Operation.TextOverFile files operations) :
    ¬ SourceBelongs files operations := by
  intro belongs
  obtain ⟨⟨text, lastLoad⟩, file⟩ := hidden
  have unnamed := belongs.noneForText text lastLoad
  simpa [unnamed] using isSome_source_iff.mpr file

/-- The source belongs to the schema exactly when no text was loaded over a file. Otherwise the
schema is that of the text, and the source is still the file. -/
theorem sourceBelongs_iff (files : Files) (operations : List Operation) :
    (SourceBelongs files operations ↔ ¬ Operation.TextOverFile files operations) ∧
      (Operation.TextOverFile files operations →
        ∃ text path schema,
          Operation.lastLoad? files operations = some (.loadText text) ∧
          Schema.ofText text = .ok schema ∧
          (performAll files .empty operations).schema = some schema ∧
          (performAll files .empty operations).source = some path ∧
          (Operation.recent operations).findSome? (Operation.loadsFrom? files) = some path) := by
  constructor
  · constructor
    · exact fun belongs hidden => not_sourceBelongs_of_textOverFile hidden belongs
    · exact sourceBelongs_of_not_textOverFile
  · rintro ⟨⟨text, lastLoad⟩, file⟩
    obtain ⟨path, named⟩ := Option.isSome_iff_exists.mp (isSome_source_iff.mpr file)
    obtain ⟨schema, found⟩ :=
      Option.isSome_iff_exists.mp (Operation.recent_of_lastLoad? lastLoad).1
    refine ⟨text, path, schema, lastLoad, toOption_eq_some_iff.mp found, ?_, named, ?_⟩
    · exact (schema_of_lastLoad? lastLoad).trans found
    · rw [← source_performAll]
      exact named

/-! ### A text over a file -/

theorem readText_of_entry {path text : String}
    (found : files.entry path = .ok (.file text.toUTF8)) : files.readText path = .ok text := by
  have decoded : String.fromUTF8? text.toUTF8 = some text := dif_pos text.isValidUTF8
  rw [Files.readText, found]
  simp only [decoded]

/-- A text that declares posts. -/
def postsText : String :=
  "\x7b\"declarations\":[\x7b\"kind\":\"model\",\"name\":\"Post\"\x7d]\x7d"

/-- A text that declares nothing. -/
def blankText : String := "\x7b\"declarations\":[]\x7d"

/-- The files of a directory with the text about posts. -/
def postsFiles : Files where
  entry path :=
    if path = "posts.json" then .ok (.file postsText.toUTF8) else .error .notFound

theorem ofText_postsText : Schema.ofText postsText = .ok ⟨[.model ⟨"Post", []⟩]⟩ := by
  -- The characters of the text are given, since its bytes are slow to go through.
  have characters : postsText.toList = _ := String.toList_ofList
  rw [Schema.ofText, Json.Document.ofText, Json.Token.ofText, characters]
  with_unfolding_all rfl

theorem ofText_blankText : Schema.ofText blankText = .ok ⟨[]⟩ := by
  have characters : blankText.toList = _ := String.toList_ofList
  rw [Schema.ofText, Json.Document.ofText, Json.Token.ofText, characters]
  with_unfolding_all rfl

/-- After the file with the posts, the session names it as the source of a schema without any. -/
theorem postsFiles_not_sourceBelongs :
    ¬ SourceBelongs postsFiles [.loadFile "posts.json", .loadText blankText] := by
  have posts : (Operation.loadFile "posts.json").loads? postsFiles =
      some ⟨[.model ⟨"Post", []⟩]⟩ := by
    rw [Operation.loads?, readText_of_entry rfl, Except.toOption, Option.bind_some,
      ofText_postsText]
    rfl
  have blank : (Operation.loadText blankText).loads? postsFiles = some ⟨[]⟩ := by
    rw [Operation.loads?, ofText_blankText]
    rfl
  refine not_sourceBelongs_of_textOverFile ⟨⟨blankText, ?_⟩, .loadFile "posts.json", ?_, ?_⟩
  · simp [Operation.lastLoad?, Operation.recent, Operation.isUnload, blank]
  · simp [Operation.recent, Operation.isUnload]
  · simp [Operation.loadsFrom?, posts]

end Session

end EntityMapping
