/-
Module: EntityMapping.Proofs.CommandAgreement
Purpose: The two commands agree on a schema file. They fail together, when the file gives no schema,
  and for the same cause. Otherwise the edges are the relations of the reported entities, and a
  report on one entity is what the whole report says about it. The identifiers of the database and
  the schema stand in the places that show them and change nothing else.
Main exports: Entity.restamp, Schema.restamp_interpret, Source.interpret_eq, Relation.JoinedBy,
  Edge.Shows, relationsListed, CommandsAgree, commands_agree
-/
import EntityMapping.Command
import EntityMapping.Proofs.Interpretation
import Mathlib.Data.List.Forall2

namespace EntityMapping

open Schema (Declaration)

/-! ### Results with a value or a cause -/

section Results

variable {ε α β γ : Type} {result : Except ε α}

theorem map_eq_error_iff {f : α → β} {cause : ε} :
    result.map f = .error cause ↔ result = .error cause := by
  cases result <;> simp [Except.map]

theorem map_eq_ok_iff {f : α → β} {b : β} :
    result.map f = .ok b ↔ ∃ a, result = .ok a ∧ f a = b := by
  cases result <;> simp [Except.map]

theorem map_map (f : α → β) (g : β → γ) : (result.map f).map g = result.map fun a => g (f a) := by
  cases result <;> rfl

end Results

/-! ### The stamp of an interpretation -/

/-- The entity with the identifiers of a stamp. -/
def Entity.restamp (stamp : Stamp) (entity : Entity) : Entity :=
  { entity with database := stamp.database, schema := stamp.schema }

/-- The interpretation with the identifiers of a stamp on its entities. -/
def Interpretation.restamp (stamp : Stamp) (interpretation : Interpretation) : Interpretation :=
  { interpretation with entities := interpretation.entities.map (Entity.restamp stamp) }

namespace Schema

variable (schema : Schema) (stamp other : Stamp)

theorem restamp_drafts :
    (schema.drafts stamp).map (Entity.restamp other) = schema.drafts other := by
  have restamped (declaration : Declaration) :
      (declaration.draft? stamp).map (Entity.restamp other) = declaration.draft? other := by
    cases declaration <;> rfl
  unfold drafts
  rw [List.map_filterMap]
  exact congrArg (List.filterMap · schema.declarations) (funext restamped)

/-- The identifiers of a draft stay on its entity and reach no diagnostic. -/
theorem interpretEntity_restamp (entity : Entity) :
    schema.interpretEntity (entity.restamp other) =
      { entity := (schema.interpretEntity entity).entity.restamp other
        diagnostics := (schema.interpretEntity entity).diagnostics } := by
  rw [interpretEntity_eq, interpretEntity_eq]
  rfl

/-- Two interpretations of a schema differ in the identifiers on their entities alone. -/
theorem restamp_interpret :
    (schema.interpret stamp).restamp other = schema.interpret other := by
  unfold interpret Interpretation.restamp
  simp only [← schema.restamp_drafts stamp other, List.map_map, List.flatMap_map,
    Function.comp_def, interpretEntity_restamp]

end Schema

/-! ### The schema of a source -/

/-- The schema that a file holds. -/
def Files.schema (files : Files) (path : String) : Except SessionError Schema := do
  let text ← readSchema files path
  decodeSchema text

/-- To interpret a source is to interpret the schema of its file. -/
theorem Source.interpret_eq (files : Files) (source : Source) (stamp : Stamp) :
    source.interpret files stamp =
      (files.schema source.file).map fun schema => schema.interpret stamp := by
  unfold interpret Files.schema Session.loadFile
  cases readSchema files source.file with
  | error cause => rfl
  | ok text =>
      cases decoded : decodeSchema text <;>
        simp [Session.loadText, Session.interpret, decoded, bind, Except.bind, Except.map, pure,
          Except.pure]

/-! ### The entities of a report -/

namespace EntitiesReport

/-- The part of a report about the entities of a name. All diagnostics stay in it. -/
def restrict (name : String) (report : EntitiesReport) : EntitiesReport :=
  { report with entities := report.entities.filter (·.name == name) }

/-- The report with the identifiers of a stamp in all places that show them. -/
def restamp (stamp : Stamp) (report : EntitiesReport) : EntitiesReport :=
  { report with
    database := stamp.database
    schema := stamp.schema
    entities := report.entities.map (Entity.restamp stamp) }

end EntitiesReport

namespace EntitiesCommand

variable (settings : Settings) (schema : Schema) (command : EntitiesCommand)

/-- What the command reports on a schema. -/
def reportOn : EntitiesReport where
  file := command.source.file
  database := (command.stamp settings).database
  schema := (command.stamp settings).schema
  entities :=
    (schema.interpret (command.stamp settings)).entities.filter fun entity =>
      command.source.includes entity.name
  diagnostics := (schema.interpret (command.stamp settings)).diagnostics

theorem report_eq (files : Files) :
    command.report files settings =
      (files.schema command.source.file).map fun schema => command.reportOn settings schema := by
  simp only [report, Source.interpret_eq]
  cases files.schema command.source.file <;> rfl

/-- A report on the entities of a name is that part of the whole report. -/
theorem reportOn_restrict (file name : String) (database schemaName : Option String) :
    reportOn settings schema ⟨⟨file, some name⟩, database, schemaName⟩ =
      (reportOn settings schema ⟨⟨file, none⟩, database, schemaName⟩).restrict name := by
  unfold reportOn EntitiesReport.restrict
  simp only [Source.includes, List.filter_true]
  congr 2
  funext entity
  exact Bool.beq_comm

/-- Another stamp changes the places that show it. -/
theorem reportOn_restamp (source : Source) (other : Settings)
    (database database' schemaName schemaName' : Option String) :
    reportOn other schema ⟨source, database', schemaName'⟩ =
      (reportOn settings schema ⟨source, database, schemaName⟩).restamp
        (stamp ⟨source, database', schemaName'⟩ other) := by
  unfold reportOn EntitiesReport.restamp
  simp only [← schema.restamp_interpret (stamp ⟨source, database, schemaName⟩ settings)
    (stamp ⟨source, database', schemaName'⟩ other), Interpretation.restamp, List.filter_map]
  rfl

end EntitiesCommand

/-! ### The edges of a report -/

/-- How a relation is joined, as an edge shows it: by the join table if there is one, or else by the
pairs of columns if there are any. -/
inductive Relation.JoinedBy (relation : Relation) : Option String → Prop where
  | table {table : JoinTable} (linked : relation.joinTable = some table) :
      JoinedBy relation (some table.name)
  | columns (unlinked : relation.joinTable = none) (paired : relation.joinColumns ≠ []) :
      JoinedBy relation
        (some (", ".intercalate (relation.joinColumns.map fun c => c.name ++ "->" ++ c.referenced)))
  | nothing (unlinked : relation.joinTable = none) (unpaired : relation.joinColumns = []) :
      JoinedBy relation none

theorem Relation.joinedBy_joinText? (relation : Relation) :
    relation.JoinedBy relation.joinText? := by
  unfold joinText?
  cases linked : relation.joinTable with
  | some table => exact JoinedBy.table linked
  | none =>
      cases paired : relation.joinColumns with
      | nil => exact JoinedBy.nothing linked paired
      | cons column rest =>
          rw [← paired, if_neg (by simp [paired])]
          apply JoinedBy.columns linked
          simp [paired]

/-- The edge shows a relation of the entity named `owner`. -/
structure Edge.Shows (owner : String) (relation : Relation) (edge : Edge) : Prop where
  entity : edge.entity = owner
  field : edge.field = relation.fieldName
  cardinality : edge.cardinality = relation.cardinality
  relatedTable : edge.relatedTable = relation.relatedTable
  relatedField : edge.relatedField = relation.relatedField
  relationName : edge.relationName = relation.relationName
  join : relation.JoinedBy edge.join

/-- The relations of some entities with the names of their entities: entity by entity, and those of
an entity in order. If a cardinality is wanted, the others are left out. -/
def relationsListed (wanted : Option Cardinality) (entities : List Entity) :
    List (String × Relation) :=
  entities.flatMap fun entity =>
    (entity.relations.filter fun relation => wanted.all (· == relation.cardinality)).map
      (entity.name, ·)

/-- The listed relations of the entities of a name are the relations of those entities. -/
theorem filter_relationsListed (wanted : Option Cardinality) (entities : List Entity)
    (name : String) :
    (relationsListed wanted entities).filter (·.1 == name) =
      relationsListed wanted (entities.filter (·.name == name)) := by
  unfold relationsListed
  induction entities with
  | nil => rfl
  | cons entity rest ih =>
      rw [List.flatMap_cons, List.filter_append, ih, List.filter_map]
      by_cases named : entity.name = name
      · simp [named, Function.comp_def]
      · simp [named, Function.comp_def]

/-- The part of a report about the entities of a name. -/
def RelationsReport.restrict (name : String) (report : RelationsReport) : RelationsReport :=
  { report with edges := report.edges.filter (·.entity == name) }

namespace RelationsCommand

variable (settings : Settings) (schema : Schema) (command : RelationsCommand)

/-- The edges that the command reports of some entities. -/
def edgesOf (entities : List Entity) : List Edge :=
  (relationsListed command.cardinality
    (entities.filter fun entity => command.source.includes entity.name)).map
      fun (owner, relation) => .ofRelation owner relation

/-- What the command reports on a schema. -/
def reportOn : RelationsReport where
  file := command.source.file
  edges := command.edgesOf (schema.interpret (command.stamp settings)).entities

theorem filter_includes (entities : List Entity) :
    (entities.flatMap fun entity => entity.relations.map (Edge.ofRelation entity.name)).filter
        command.includes =
      (relationsListed command.cardinality entities).map
        fun (owner, relation) => Edge.ofRelation owner relation := by
  have included (owner : String) (relation : Relation) :
      command.includes (.ofRelation owner relation) =
        command.cardinality.all (· == relation.cardinality) := by
    unfold includes
    cases command.cardinality <;> rfl
  unfold relationsListed
  simp only [List.filter_flatMap, List.map_flatMap, List.filter_map, List.map_map,
    Function.comp_def, included]

theorem report_eq (files : Files) :
    command.report files settings =
      (files.schema command.source.file).map fun schema => command.reportOn settings schema := by
  simp only [report, Source.interpret_eq, filter_includes]
  cases files.schema command.source.file <;> rfl

/-- A report on the edges of the entities of a name is that part of the whole report. -/
theorem reportOn_restrict (file name : String) (wanted : Option Cardinality) :
    reportOn settings schema ⟨⟨file, some name⟩, wanted⟩ =
      (reportOn settings schema ⟨⟨file, none⟩, wanted⟩).restrict name := by
  unfold reportOn RelationsReport.restrict edgesOf
  simp only [Source.includes, List.filter_true, List.filter_map]
  have shown :
      ((fun edge => edge.entity == name) ∘ fun (owner, relation) =>
          Edge.ofRelation owner relation) =
        fun listed => listed.1 == name := rfl
  rw [shown, filter_relationsListed]
  simp only [Bool.beq_comm]
  rfl

/-- The edges are the same under every stamp. -/
theorem edgesOf_interpret (stamp other : Stamp) :
    command.edgesOf (schema.interpret other).entities =
      command.edgesOf (schema.interpret stamp).entities := by
  unfold edgesOf relationsListed
  rw [← schema.restamp_interpret stamp other]
  simp only [Interpretation.restamp, List.filter_map, List.flatMap_map]
  rfl

theorem reportOn_eq (stamp : Stamp) :
    command.reportOn settings schema =
      ⟨command.source.file, command.edgesOf (schema.interpret stamp).entities⟩ := by
  rw [reportOn, edgesOf_interpret]

/-- The edges show the listed relations one by one. -/
theorem shows_edgesOf (entities : List Entity) :
    List.Forall₂ (fun (owner, relation) edge => Edge.Shows owner relation edge)
      (relationsListed command.cardinality
        (entities.filter fun entity => command.source.includes entity.name))
      (command.edgesOf entities) := by
  unfold edgesOf
  rw [List.forall₂_map_right_iff, List.forall₂_same]
  rintro ⟨owner, relation⟩ _
  exact ⟨rfl, rfl, rfl, rfl, rfl, rfl, relation.joinedBy_joinText?⟩

end RelationsCommand

/-! ### Agreement -/

/-- The two commands on one schema file agree, with the given restrictions and the given identifiers
on the command line of the one that reports entities. -/
structure CommandsAgree (files : Files) (settings : Settings) (file : String)
    (name : Option String) (wanted : Option Cardinality) (database schemaName : Option String) :
    Prop where
  /-- They fail together and for the same cause, whatever entity each is restricted to. -/
  failures :
    ∀ name' cause,
      (RelationsCommand.mk ⟨file, name'⟩ wanted).report files settings = .error cause ↔
        (EntitiesCommand.mk ⟨file, name⟩ database schemaName).report files settings = .error cause
  /-- The same holds of the runs that write the reports. -/
  runFailures :
    ∀ format format' cause,
      Command.run files settings format (.relations ⟨⟨file, name⟩, wanted⟩) = .error cause ↔
        Command.run files settings format' (.entities ⟨⟨file, name⟩, database, schemaName⟩) =
          .error cause
  /-- The edges show the relations of the reported entities, in order. -/
  edges :
    ∀ report,
      (EntitiesCommand.mk ⟨file, name⟩ database schemaName).report files settings = .ok report →
        ∃ edges,
          (RelationsCommand.mk ⟨file, name⟩ wanted).report files settings = .ok ⟨file, edges⟩ ∧
            List.Forall₂ (fun (owner, relation) edge => Edge.Shows owner relation edge)
              (relationsListed wanted report.entities) edges
  /-- A report on the entities of a name is that part of the whole report, with all diagnostics. -/
  entitiesOf :
    ∀ wantedName,
      (EntitiesCommand.mk ⟨file, some wantedName⟩ database schemaName).report files settings =
        ((EntitiesCommand.mk ⟨file, none⟩ database schemaName).report files settings).map
          (EntitiesReport.restrict wantedName)
  /-- A report on their edges is that part of the whole report. -/
  edgesOf :
    ∀ wantedName,
      (RelationsCommand.mk ⟨file, some wantedName⟩ wanted).report files settings =
        ((RelationsCommand.mk ⟨file, none⟩ wanted).report files settings).map
          (RelationsReport.restrict wantedName)
  /-- Other identifiers on the command line or in the settings change the report in the places that
  show them. -/
  entitiesStamp :
    ∀ settings' database' schemaName',
      (EntitiesCommand.mk ⟨file, name⟩ database' schemaName').report files settings' =
        ((EntitiesCommand.mk ⟨file, name⟩ database schemaName).report files settings).map
          (EntitiesReport.restamp
            (EntitiesCommand.stamp ⟨⟨file, name⟩, database', schemaName'⟩ settings'))
  /-- No place of a report on edges shows them. -/
  edgesStamp :
    ∀ settings',
      (RelationsCommand.mk ⟨file, name⟩ wanted).report files settings' =
        (RelationsCommand.mk ⟨file, name⟩ wanted).report files settings

/-- On every schema file, under all settings and restrictions, the two commands agree. -/
theorem commands_agree (files : Files) (settings : Settings) (file : String)
    (name : Option String) (wanted : Option Cardinality) (database schemaName : Option String) :
    CommandsAgree files settings file name wanted database schemaName := by
  constructor
  case failures =>
    intro name' cause
    rw [RelationsCommand.report_eq, EntitiesCommand.report_eq, map_eq_error_iff, map_eq_error_iff]
  case runFailures =>
    intro format format' cause
    simp only [Command.run, RelationsCommand.report_eq, EntitiesCommand.report_eq]
    cases files.schema file <;> simp [Except.map]
  case edges =>
    intro report reported
    rw [EntitiesCommand.report_eq] at reported
    obtain ⟨schema, found, rfl⟩ := map_eq_ok_iff.mp reported
    refine ⟨_, ?_, RelationsCommand.shows_edgesOf ⟨⟨file, name⟩, wanted⟩ _⟩
    rw [RelationsCommand.report_eq, map_eq_ok_iff]
    exact ⟨schema, found, RelationsCommand.reportOn_eq settings schema _ _⟩
  case entitiesOf =>
    intro wantedName
    rw [EntitiesCommand.report_eq, EntitiesCommand.report_eq, map_map]
    simp only [EntitiesCommand.reportOn_restrict]
  case edgesOf =>
    intro wantedName
    rw [RelationsCommand.report_eq, RelationsCommand.report_eq, map_map]
    simp only [RelationsCommand.reportOn_restrict]
  case entitiesStamp =>
    intro settings' database' schemaName'
    rw [EntitiesCommand.report_eq, EntitiesCommand.report_eq, map_map]
    congr 1
    funext schema
    exact EntitiesCommand.reportOn_restamp settings schema ⟨file, name⟩ settings' _ _ _ _
  case edgesStamp =>
    intro settings'
    rw [RelationsCommand.report_eq, RelationsCommand.report_eq]
    congr 1
    funext schema
    exact RelationsCommand.reportOn_eq settings' schema _ _

end EntityMapping
