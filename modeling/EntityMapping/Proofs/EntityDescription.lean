/-
Module: EntityMapping.Proofs.EntityDescription
Purpose: The entities of an interpreted schema describe its models and enumerations one by one, and
  nothing is lost, doubled or moved: every field of the model that a name refers to last becomes one
  column or one relation, in the order of the fields.
Main exports: Entity.Labelled, Entity.Bare, Entity.HoldsFields, Schema.Describes,
  Schema.entities_describe_declarations
-/
import EntityMapping.Proofs.Interpretation
import EntityMapping.Proofs.Selection

namespace EntityMapping

open Schema (Declaration Enumeration EnumItem Field Model)

/-! ### What an entity holds -/

/-- The entity carries the name in all its places, and the identifiers of the interpretation. -/
structure Entity.Labelled (stamp : Stamp) (given : String) (entity : Entity) : Prop where
  sqlName : entity.sqlName = given
  name : entity.name = given
  fileName : entity.fileName = given
  database : entity.database = stamp.database
  schema : entity.schema = stamp.schema

/-- The entity has no part that a member of a model could have added. -/
structure Entity.Bare (entity : Entity) : Prop where
  columns : entity.columns = []
  relations : entity.relations = []
  indices : entity.indices = []
  imports : entity.imports = []

/-- The entity holds one column or one relation for each field of a model: relations for the fields
whose type refers to a model, columns for all others, each in the order of the fields. -/
structure Entity.HoldsFields (schema : Schema) (model : Model) (entity : Entity) : Prop where
  columns :
    entity.columns.map Column.name =
      (model.fields.filter fun f => !(schema.model? (valueName f.type.innermost)).isSome).map
        Field.name
  relations :
    entity.relations.map Relation.fieldName =
      (model.fields.filter fun f => (schema.model? (valueName f.type.innermost)).isSome).map
        Field.name
  count : entity.columns.length + entity.relations.length = model.fields.length

/-- An entity describes a declaration: an enumeration by its values alone; a model by the fields of
the model that its name refers to, and by nothing if the name refers to an enumeration. -/
inductive Schema.Describes (schema : Schema) (stamp : Stamp) : Declaration → Entity → Prop where
  | enumeration {e : Enumeration} {entity : Entity}
      (labelled : entity.Labelled stamp e.name) (isEnum : entity.isEnum = true)
      (values : entity.enumValues.map EnumItem.value = e.members.filter (· ≠ .other))
      (bare : entity.Bare) : Describes schema stamp (.enumeration e) entity
  | shadowed {m : Model} {e : Enumeration} {entity : Entity}
      (labelled : entity.Labelled stamp m.name) (table : entity.isEnum = false)
      (valueless : entity.enumValues = [])
      (last : schema.LastNamed m.name (.enumeration e))
      (bare : entity.Bare) : Describes schema stamp (.model m) entity
  | model {m read : Model} {entity : Entity}
      (labelled : entity.Labelled stamp m.name) (table : entity.isEnum = false)
      (valueless : entity.enumValues = [])
      (last : schema.LastNamed m.name (.model read))
      (fields : entity.HoldsFields schema read) : Describes schema stamp (.model m) entity

/-! ### The fields of a model -/

namespace Schema

variable (schema : Schema) (stamp : Stamp)

theorem isSome_relation?_outcome (owner : String) (field : Field) :
    (schema.outcome owner field).relation?.isSome = (schema.target? field).isSome := by
  rw [relation?_outcome, Option.isSome_map]

/-- What is selected from the outcomes of the fields that pass a test has the names of these
fields. -/
theorem map_name_outcomes {α : Type} {select : FieldResult → Option α} {name : α → String}
    {test : Field → Bool} {owner : String}
    (selects : ∀ field,
      (select (schema.outcome owner field)).map name =
        if test field then some field.name else none)
    (model : Model) :
    ((schema.outcomes owner model).filterMap select).map name =
      (model.fields.filter test).map Field.name := by
  rw [outcomes, List.filterMap_map, List.map_filterMap, ← filterMap_ite_eq_map_filter]
  exact congrArg (List.filterMap · model.fields) (funext selects)

/-- A table that takes the part of a model holds its fields. -/
theorem holdsFields_modelPart (name : String) (model : Model) :
    ((Draft.mk (.model name stamp) []).extend (schema.modelPart name model)).entity.HoldsFields
      schema model := by
  have columns :
      ((schema.modelPart name model).columns).map Column.name =
        (model.fields.filter fun f => !(schema.target? f).isSome).map Field.name := by
    rw [modelPart_columns]
    apply map_name_outcomes
    intro field
    rw [FieldResult.map_name_column?, isSome_relation?_outcome, fieldName_outcome]
  have relations :
      ((schema.modelPart name model).relations).map Relation.fieldName =
        (model.fields.filter fun f => (schema.target? f).isSome).map Field.name := by
    rw [modelPart_relations]
    apply map_name_outcomes
    intro field
    rw [FieldResult.map_fieldName_relation?, isSome_relation?_outcome, fieldName_outcome]
  refine ⟨columns, relations, ?_⟩
  have columnCount := congrArg List.length columns
  have relationCount := congrArg List.length relations
  rw [List.length_map, List.length_map] at columnCount relationCount
  have split := List.length_eq_length_filter_add (l := model.fields) fun f =>
    (schema.target? f).isSome
  show (schema.modelPart name model).columns.length +
    (schema.modelPart name model).relations.length = model.fields.length
  omega

/-! ### The entities of a schema -/

theorem Enumeration.map_values (e : Enumeration) :
    e.values.map EnumItem.value = e.members.filter (· ≠ .other) := by
  unfold values
  induction e.members with
  | nil => rfl
  | cons item rest ih => cases item <;> simp_all

theorem describes_of_entityOf {declaration : Declaration} {entity : Entity}
    (declared : declaration ∈ schema.declarations)
    (became : schema.entityOf stamp declaration = some entity) :
    schema.Describes stamp declaration entity := by
  cases declaration with
  | unknown => simp at became
  | enumeration e =>
      rw [entityOf_enumeration, Option.some.injEq] at became
      subst became
      exact .enumeration ⟨rfl, rfl, rfl, rfl, rfl⟩ rfl e.map_values ⟨rfl, rfl, rfl, rfl⟩
  | model m =>
      rw [entityOf_model, Option.some.injEq] at became
      subst became
      rcases schema.lookup_cases m.name with ⟨read, found⟩ | ⟨e, found⟩ | missing
      · have part := schema.entityPart_of_model (.model m.name stamp) rfl
          (model?_eq_some_iff.mpr found)
        rw [part]
        exact .model ⟨rfl, rfl, rfl, rfl, rfl⟩ rfl rfl (lookup_eq_some_iff.mp found)
          (schema.holdsFields_modelPart stamp m.name read)
      · have part := schema.entityPart_of_shadowed (.model m.name stamp)
          (by simp [Entity.model, model?, found])
        rw [part, Draft.extend_empty]
        exact .shadowed ⟨rfl, rfl, rfl, rfl, rfl⟩ rfl rfl (lookup_eq_some_iff.mp found)
          ⟨rfl, rfl, rfl, rfl⟩
      · have named : (Declaration.model m).name? = some m.name := rfl
        obtain ⟨last, found⟩ := lookup_of_mem declared named
        rw [missing] at found
        exact absurd found (by simp)

/-- The entities of an interpretation are, one by one and in order, those that describe the models
and enumerations of the schema. -/
theorem entities_describe_declarations :
    List.Forall₂ (schema.Describes stamp)
      (schema.declarations.filter fun declaration => declaration.name?.isSome)
      (schema.interpret stamp).entities := by
  rw [interpret_entities]
  have named (declaration : Declaration) :
      declaration.name?.isSome = (schema.entityOf stamp declaration).isSome := by
    rw [← schema.name_entityOf stamp, Option.isSome_map]
  simp only [named]
  apply forall₂_filter_filterMap
  intro declaration declared entity became
  exact schema.describes_of_entityOf stamp declared became

end Schema

end EntityMapping
