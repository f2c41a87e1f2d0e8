/-
Module: EntityMapping.Proofs.Interpretation
Purpose: What interpreting a schema comes to: one entity for each model and enumeration, which holds
  what the fields of the model become that its name refers to.
Main exports: Schema.outcome_of_target, Schema.relation?_outcome,
  Schema.column?_outcome_cases, Schema.isSome_column?_outcome, Schema.interpretEntity_eq,
  Schema.entityOf, Schema.interpret_entities, Schema.interpret_diagnostics,
  Schema.map_name_entities, Schema.fieldsRead, Schema.enumeration_or_table_of_mem,
  Schema.columns_eq_of_mem, Schema.relations_eq_of_mem, Schema.imports_eq_of_mem,
  Schema.columns_of_mem, Schema.relations_of_mem, Schema.forall₂_outcomes,
  Schema.forall₂_columns_of_mem, Schema.forall₂_relations_of_mem
-/
import EntityMapping.Proofs.ModelReading
import EntityMapping.Proofs.NameLookup
import EntityMapping.Proofs.Selection

namespace EntityMapping.Schema

variable (schema : Schema)

/-! ### What a field becomes -/

section Outcome

variable {schema} {owner : String} {field : Field}

theorem outcome_of_target {related : Model} (found : schema.target? field = some related) :
    schema.outcome owner field =
      .relation (field.relationTo owner related (field.facts.relation.getD {})) := by
  unfold outcome
  rw [model?_eq_some_iff.mp found]

theorem outcome_of_enumeration {enumeration : Enumeration}
    (found : schema.lookup (valueName field.type.innermost) = some (.enumeration enumeration)) :
    schema.outcome owner field =
      .column (field.enumColumn field.facts enumeration.name).withGenerator := by
  unfold outcome
  rw [found]

theorem outcome_of_none (found : schema.lookup (valueName field.type.innermost) = none) :
    schema.outcome owner field = .column (field.plainColumn field.facts).withGenerator := by
  unfold outcome
  rw [found]

/-- The type of a field refers to a model, to an enumeration or to nothing. -/
theorem lookup_cases (name : String) :
    (∃ m, schema.lookup name = some (.model m)) ∨
      (∃ e, schema.lookup name = some (.enumeration e)) ∨ schema.lookup name = none := by
  cases found : schema.lookup name with
  | none => exact Or.inr (Or.inr rfl)
  | some declaration =>
      cases declaration with
      | model m => exact Or.inl ⟨m, rfl⟩
      | enumeration e => exact Or.inr (Or.inl ⟨e, rfl⟩)
      | unknown => exact absurd found lookup_ne_unknown

/-- A field becomes a relation exactly when its type refers to a model. -/
theorem relation?_outcome :
    (schema.outcome owner field).relation? =
      (schema.target? field).map fun related =>
        field.relationTo owner related (field.facts.relation.getD {}) := by
  cases target : schema.target? field with
  | some related => rw [outcome_of_target target]; rfl
  | none =>
      rcases schema.lookup_cases (valueName field.type.innermost) with
        ⟨m, found⟩ | ⟨e, found⟩ | found
      · rw [target?, model?_eq_some_iff.mpr found] at target
        exact absurd target (by simp)
      · rw [outcome_of_enumeration found]; rfl
      · rw [outcome_of_none found]; rfl

/-- A column that a field becomes is that of the enumeration that its type refers to, or a plain one
if the type refers to nothing. -/
theorem column?_outcome_cases {column : Column}
    (became : (schema.outcome owner field).column? = some column) :
    (∃ e, schema.lookup (valueName field.type.innermost) = some (.enumeration e) ∧
        (field.enumColumn field.facts e.name).withGenerator = column) ∨
      schema.lookup (valueName field.type.innermost) = none ∧
        (field.plainColumn field.facts).withGenerator = column := by
  rcases schema.lookup_cases (valueName field.type.innermost) with ⟨m, found⟩ | ⟨e, found⟩ | found
  · rw [outcome_of_target (model?_eq_some_iff.mpr found)] at became
    cases became
  · rw [outcome_of_enumeration found] at became
    exact Or.inl ⟨e, found, Option.some.inj became⟩
  · rw [outcome_of_none found] at became
    exact Or.inr ⟨found, Option.some.inj became⟩

/-- A field becomes a column exactly when its type refers to no model. -/
theorem isSome_column?_outcome :
    (schema.outcome owner field).column?.isSome = (schema.target? field).isNone := by
  have split (result : FieldResult) : result.column?.isSome = result.relation?.isNone := by
    cases result <;> rfl
  rw [split, relation?_outcome, Option.isNone_map]

theorem fieldName_outcome : (schema.outcome owner field).fieldName = field.name := by
  rcases schema.lookup_cases (valueName field.type.innermost) with ⟨m, found⟩ | ⟨e, found⟩ | found
  · rw [outcome_of_target (model?_eq_some_iff.mpr found)]; rfl
  · rw [outcome_of_enumeration found]; exact Column.name_withGenerator _
  · rw [outcome_of_none found]; exact Column.name_withGenerator _

end Outcome

/-! ### One entity -/

/-- What interpretation adds to the draft of an entity: nothing to an enumeration, and to a table
what the members of the model add that its name refers to. -/
def entityPart (entity : Entity) : Contribution :=
  if entity.isEnum then {}
  else
    match schema.model? entity.name with
    | some model => schema.modelPart entity.name model
    | none => {}

theorem interpretEntity_eq (entity : Entity) :
    schema.interpretEntity entity =
      Draft.extend { entity := entity, diagnostics := [] } (schema.entityPart entity) := by
  unfold interpretEntity entityPart
  dsimp only
  by_cases complete : entity.isEnum = true
  · simp [complete]
  · cases schema.model? entity.name <;> simp [complete, Draft.addModel_eq]

theorem entityPart_of_isEnum (entity : Entity) (complete : entity.isEnum = true) :
    schema.entityPart entity = {} := by
  simp [entityPart, complete]

theorem entityPart_of_model (entity : Entity) {model : Model} (table : entity.isEnum = false)
    (read : schema.model? entity.name = some model) :
    schema.entityPart entity = schema.modelPart entity.name model := by
  simp [entityPart, table, read]

/-- A model whose name refers to no model stays empty. -/
theorem entityPart_of_shadowed (entity : Entity)
    (shadowed : schema.model? entity.name = none) :
    schema.entityPart entity = {} := by
  simp [entityPart, shadowed]

/-! ### All entities -/

section Entities

variable (stamp : Stamp)

theorem name_draft? (declaration : Declaration) :
    (declaration.draft? stamp).map Entity.name = declaration.name? := by
  cases declaration <;> rfl

/-- The drafts are named like the declarations, in order. -/
theorem map_name_drafts :
    (schema.drafts stamp).map Entity.name = schema.declarations.filterMap Declaration.name? := by
  rw [drafts, List.map_filterMap]
  exact congrArg (List.filterMap · schema.declarations) (funext (name_draft? stamp))

/-- The entity of a declaration, if it is a model or an enumeration. -/
def entityOf (declaration : Declaration) : Option Entity :=
  (declaration.draft? stamp).map fun draft => (schema.interpretEntity draft).entity

@[simp] theorem entityOf_model (m : Model) :
    schema.entityOf stamp (.model m) =
      some
        (Draft.extend { entity := .model m.name stamp, diagnostics := [] }
          (schema.entityPart (.model m.name stamp))).entity := by
  simp [entityOf, Declaration.draft?, interpretEntity_eq]

@[simp] theorem entityOf_enumeration (e : Enumeration) :
    schema.entityOf stamp (.enumeration e) = some (.enumeration e.name e.values stamp) := by
  simp [entityOf, Declaration.draft?, interpretEntity_eq, entityPart_of_isEnum,
    Entity.enumeration]

@[simp] theorem entityOf_unknown : schema.entityOf stamp .unknown = none := rfl

/-- The entities are those of the declarations, in order. -/
theorem interpret_entities :
    (schema.interpret stamp).entities =
      schema.declarations.filterMap (schema.entityOf stamp) := by
  unfold interpret drafts entityOf
  simp only [List.map_filterMap, Option.map_map]
  rfl

theorem name_entityOf (declaration : Declaration) :
    (schema.entityOf stamp declaration).map Entity.name = declaration.name? := by
  rw [← name_draft? stamp declaration, entityOf, Option.map_map]
  simp only [interpretEntity_eq, Function.comp_def, Draft.extend_name]

/-- The entities are named like the declarations, in order. -/
theorem map_name_entities :
    (schema.interpret stamp).entities.map Entity.name =
      schema.declarations.filterMap Declaration.name? := by
  rw [interpret_entities, List.map_filterMap]
  exact congrArg (List.filterMap · schema.declarations) (funext (schema.name_entityOf stamp))

/-- The diagnostics are those about declarations, and then what each entity's part reports. -/
theorem interpret_diagnostics :
    (schema.interpret stamp).diagnostics =
      schema.unrecognized ++
        (schema.drafts stamp).flatMap fun draft => (schema.entityPart draft).diagnostics := by
  unfold interpret
  simp only [List.flatMap_map, interpretEntity_eq, Draft.extend, List.nil_append]

/-- A model that is declared has a table of its name. -/
theorem exists_table_of_mem {m : Model} (declared : .model m ∈ schema.declarations) :
    ∃ entity ∈ (schema.interpret stamp).entities,
      entity.name = m.name ∧ entity.isEnum = false := by
  rw [interpret_entities]
  exact ⟨_, List.mem_filterMap.mpr ⟨.model m, declared, schema.entityOf_model stamp m⟩, rfl, rfl⟩

/-- An enumeration that is declared has an entity of its name. -/
theorem exists_enumeration_of_mem {e : Enumeration}
    (declared : .enumeration e ∈ schema.declarations) :
    ∃ entity ∈ (schema.interpret stamp).entities, entity.name = e.name ∧ entity.isEnum = true := by
  rw [interpret_entities]
  exact ⟨_, List.mem_filterMap.mpr ⟨.enumeration e, declared, schema.entityOf_enumeration stamp e⟩,
    rfl, rfl⟩

end Entities

/-- The fields that an entity is read from: none for an enumeration, and for a table those of the
model that its name refers to. -/
def fieldsRead (entity : Entity) : List Field :=
  if entity.isEnum then [] else (schema.model? entity.name).toList.flatMap Model.fields

/-- What the fields of a model add to a table, the fields add that the table is read from. -/
theorem entityPart_of_fields {α : Type} (added : Contribution → List α)
    (ofFields : List Field → List α) (entity : Entity) (nothing : added {} = ofFields [])
    (ofModel : ∀ model, added (schema.modelPart entity.name model) = ofFields model.fields) :
    added (schema.entityPart entity) = ofFields (schema.fieldsRead entity) := by
  unfold entityPart fieldsRead
  cases entity.isEnum with
  | true => exact nothing
  | false =>
      cases schema.model? entity.name with
      | none => exact nothing
      | some model => simpa using ofModel model

theorem entityPart_columns (entity : Entity) :
    (schema.entityPart entity).columns =
      ((schema.fieldsRead entity).map (schema.outcome entity.name)).filterMap
        FieldResult.column? :=
  schema.entityPart_of_fields Contribution.columns
    (fun fields => (fields.map (schema.outcome entity.name)).filterMap FieldResult.column?) entity
    rfl (schema.modelPart_columns entity.name)

theorem entityPart_relations (entity : Entity) :
    (schema.entityPart entity).relations =
      ((schema.fieldsRead entity).map (schema.outcome entity.name)).filterMap
        FieldResult.relation? :=
  schema.entityPart_of_fields Contribution.relations
    (fun fields => (fields.map (schema.outcome entity.name)).filterMap FieldResult.relation?) entity
    rfl (schema.modelPart_relations entity.name)

theorem entityPart_imports (entity : Entity) :
    (schema.entityPart entity).imports =
      (schema.fieldsRead entity).flatMap schema.importsFor :=
  schema.entityPart_of_fields Contribution.imports (List.flatMap schema.importsFor) entity rfl
    (schema.modelPart_imports entity.name)

variable {schema} {stamp : Stamp} {entity : Entity} {model : Model}

/-- An entity of the result is complete as an enumeration, or it is the draft of a model with its
part added. -/
theorem enumeration_or_table_of_mem (listed : entity ∈ (schema.interpret stamp).entities) :
    (∃ e : Enumeration, entity = .enumeration e.name e.values stamp) ∨
      entity.isEnum = false ∧
        entity =
          (Draft.extend { entity := .model entity.name stamp, diagnostics := [] }
            (schema.entityPart entity)).entity := by
  rw [interpret_entities] at listed
  obtain ⟨declaration, _, became⟩ := List.mem_filterMap.mp listed
  cases declaration with
  | model m =>
      rw [entityOf_model, Option.some.injEq] at became
      subst became
      exact Or.inr ⟨rfl, rfl⟩
  | enumeration e =>
      rw [entityOf_enumeration, Option.some.injEq] at became
      exact Or.inl ⟨e, became.symm⟩
  | unknown => simp at became

/-- The columns of an entity are what the fields that it is read from become, as far as they become
columns. -/
theorem columns_eq_of_mem (listed : entity ∈ (schema.interpret stamp).entities) :
    entity.columns =
      ((schema.fieldsRead entity).map (schema.outcome entity.name)).filterMap
        FieldResult.column? := by
  rcases enumeration_or_table_of_mem listed with ⟨e, rfl⟩ | ⟨_, extended⟩
  · rfl
  · rw [← entityPart_columns]
    exact congrArg Entity.columns extended

/-- The relations of an entity are what the fields that it is read from become, as far as they
become relations. -/
theorem relations_eq_of_mem (listed : entity ∈ (schema.interpret stamp).entities) :
    entity.relations =
      ((schema.fieldsRead entity).map (schema.outcome entity.name)).filterMap
        FieldResult.relation? := by
  rcases enumeration_or_table_of_mem listed with ⟨e, rfl⟩ | ⟨_, extended⟩
  · rfl
  · rw [← entityPart_relations]
    exact congrArg Entity.relations extended

/-- The files that an entity imports are the first of each name that the fields need that it is read
from. -/
theorem imports_eq_of_mem (listed : entity ∈ (schema.interpret stamp).entities) :
    entity.imports =
      appendEachNew ImportedFile.entityName []
        ((schema.fieldsRead entity).flatMap schema.importsFor) := by
  rcases enumeration_or_table_of_mem listed with ⟨e, rfl⟩ | ⟨_, extended⟩
  · rfl
  · rw [← entityPart_imports]
    exact congrArg Entity.imports extended

theorem mem_fieldsRead_iff {field : Field} :
    field ∈ schema.fieldsRead entity ↔
      entity.isEnum = false ∧ ∃ m, schema.model? entity.name = some m ∧ field ∈ m.fields := by
  unfold fieldsRead
  cases entity.isEnum with
  | true => simp
  | false => simp

theorem fieldsRead_of_model (table : entity.isEnum = false)
    (read : schema.model? entity.name = some model) : schema.fieldsRead entity = model.fields := by
  simp [fieldsRead, table, read]

theorem columns_of_mem (listed : entity ∈ (schema.interpret stamp).entities)
    (table : entity.isEnum = false) (read : schema.model? entity.name = some model) :
    entity.columns = (schema.outcomes entity.name model).filterMap FieldResult.column? := by
  rw [columns_eq_of_mem listed, fieldsRead_of_model table read, outcomes]

theorem relations_of_mem (listed : entity ∈ (schema.interpret stamp).entities)
    (table : entity.isEnum = false) (read : schema.model? entity.name = some model) :
    entity.relations = (schema.outcomes entity.name model).filterMap FieldResult.relation? := by
  rw [relations_eq_of_mem listed, fieldsRead_of_model table read, outcomes]

/-! ### Fields and what they become, one by one -/

/-- What holds of each field and of what is selected of what it becomes holds of the fields of which
anything is selected, one by one and in order. -/
theorem forall₂_outcomes {α : Type} {R : Field → α → Prop} {select : FieldResult → Option α}
    {selected : Field → Bool} {owner : String}
    (selects : ∀ field, (select (schema.outcome owner field)).isSome = selected field)
    (related : ∀ field result, select (schema.outcome owner field) = some result → R field result)
    (fields : List Field) :
    List.Forall₂ R (fields.filter selected)
      ((fields.map (schema.outcome owner)).filterMap select) := by
  rw [List.filterMap_map, ← funext selects]
  apply forall₂_filter_filterMap
  intro field _ result became
  exact related field result became

/-- What holds of each field and of the column it becomes holds of the fields that refer to no model
and of the columns of an entity. -/
theorem forall₂_columns_of_mem {R : Field → Column → Prop}
    (listed : entity ∈ (schema.interpret stamp).entities)
    (related : ∀ field column, (schema.outcome entity.name field).column? = some column →
      R field column) :
    List.Forall₂ R
      ((schema.fieldsRead entity).filter fun field =>
        (schema.model? (valueName field.type.innermost)).isNone)
      entity.columns := by
  rw [columns_eq_of_mem listed]
  apply forall₂_outcomes
  · intro field
    exact isSome_column?_outcome
  · exact related

/-- What holds of each field that refers to a model and of its relation holds of such fields and of
the relations of a table. -/
theorem forall₂_relations_of_mem {R : Field → Relation → Prop}
    (listed : entity ∈ (schema.interpret stamp).entities) (table : entity.isEnum = false)
    (read : schema.model? entity.name = some model)
    (related : ∀ field other, schema.target? field = some other →
      R field (field.relationTo entity.name other (field.facts.relation.getD {}))) :
    List.Forall₂ R
      (model.fields.filter fun field =>
        (schema.model? (valueName field.type.innermost)).isSome)
      entity.relations := by
  rw [relations_of_mem listed table read, outcomes]
  apply forall₂_outcomes
  · intro field
    rw [relation?_outcome, Option.isSome_map, target?]
  · intro field relation became
    rw [relation?_outcome] at became
    obtain ⟨other, target, rfl⟩ := Option.map_eq_some_iff.mp became
    exact related field other target

end EntityMapping.Schema
