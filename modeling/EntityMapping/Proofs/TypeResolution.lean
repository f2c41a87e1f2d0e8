/-
Module: EntityMapping.Proofs.TypeResolution
Purpose: Which fields become columns, columns of an enumeration and relations. The name of a field's
  type in code decides, and so a declaration with the name that a builtin type has in code takes the
  fields of that type. All other fields become what the name in the schema says.
Main exports: FieldResult.DecidedBy, FieldResult.DecidedAsWritten, Entity.Gathers, Schema.Captures,
  Schema.outcome_decidedBy, Schema.outcome_decidedAsWritten_iff, Schema.fields_decided
-/
import EntityMapping.Proofs.Interpretation
import Mathlib.Data.List.Forall2

namespace EntityMapping

open Schema (Field Model)

/-! ### What decides -/

/-- The last declaration of a name decides what a field becomes: a relation for a model, a column of
the enumeration for an enumeration, and a column of no enumeration if there is no declaration. The
values of a column have the type of that name. -/
structure FieldResult.DecidedBy (schema : Schema) (name : String) (result : FieldResult) :
    Prop where
  relation : (∃ r, result = .relation r) ↔ ∃ m, schema.LastNamed name (.model m)
  enumeration :
    (∃ c, result = .column c ∧ c.enumType = some name) ↔
      ∃ e, schema.LastNamed name (.enumeration e)
  plain :
    (∃ c, result = .column c ∧ c.enumType = none) ↔
      ∀ d ∈ schema.declarations, d.name? ≠ some name
  valueType : ∀ c, result = .column c → c.valueType = name

/-- The innermost name of a field's type, as it stands in the schema, decides what the field
becomes. Fields of a builtin type are columns, whatever is declared. -/
def FieldResult.DecidedAsWritten (schema : Schema) (innermost : String) (result : FieldResult) :
    Prop :=
  if innermost ∈ BuiltinType.names then ∃ c, result = .column c ∧ c.enumType = none
  else result.DecidedBy schema innermost

/-- The entity has the columns and the relations that its fields became. -/
structure Entity.Gathers (entity : Entity) (results : List FieldResult) : Prop where
  columns : entity.columns = results.filterMap FieldResult.column?
  relations : entity.relations = results.filterMap FieldResult.relation?

namespace Schema

variable (schema : Schema) (owner : String) (field : Field)

/-- A declaration is called what the builtin type `innermost` is called in code. -/
def Captures (innermost : String) : Prop :=
  innermost ∈ BuiltinType.names ∧ ∃ d ∈ schema.declarations, d.name? = some (valueName innermost)

/-! ### One field -/

/-- The name of its type in code decides what a field becomes. -/
theorem outcome_decidedBy :
    (schema.outcome owner field).DecidedBy schema (valueName field.type.innermost) := by
  -- What a name refers to is of one sort, and so each result excludes the other two.
  rcases schema.lookup_cases (valueName field.type.innermost) with ⟨m, found⟩ | ⟨e, found⟩ | found
  · rw [outcome_of_target (model?_eq_some_iff.mpr found)]
    constructor
    · simp [← lookup_eq_some_iff, found]
    · simp [← lookup_eq_some_iff, found]
    · simp [← lookup_eq_none_iff, found]
    · simp
  · have named : e.name = valueName field.type.innermost :=
      Option.some.inj (name?_of_lookup found)
    rw [outcome_of_enumeration found, named]
    constructor
    · simp [← lookup_eq_some_iff, found]
    · simp [← lookup_eq_some_iff, found, Field.enumColumn]
    · simp [← lookup_eq_none_iff, found, Field.enumColumn]
    · rintro c ⟨⟩
      exact Column.valueType_withGenerator _
  · rw [outcome_of_none found]
    constructor
    · simp [← lookup_eq_some_iff, found]
    · simp [← lookup_eq_some_iff, found, Field.plainColumn]
    · simp [← lookup_eq_none_iff, found, Field.plainColumn]
    · rintro c ⟨⟩
      exact Column.valueType_withGenerator _

/-- A field becomes what its type in the schema says, unless a declaration captures the type. -/
theorem outcome_decidedAsWritten_iff :
    (schema.outcome owner field).DecidedAsWritten schema field.type.innermost ↔
      ¬ schema.Captures field.type.innermost := by
  have decided := schema.outcome_decidedBy owner field
  unfold FieldResult.DecidedAsWritten Captures
  by_cases builtin : field.type.innermost ∈ BuiltinType.names
  · rw [if_pos builtin, decided.plain]
    simp [builtin]
  · rw [if_neg builtin]
    rw [valueName_of_not_mem builtin] at decided
    exact iff_of_true decided fun captured => builtin captured.1

/-! ### All fields -/

section Fields

variable {schema} {stamp : Stamp} {entity : Entity} {model : Model}

/-- Every field of the model of a table becomes one column or one relation of the table, as the name
of its type in code decides. It becomes what its type in the schema says exactly when no declaration
captures that type. -/
theorem fields_decided (listed : entity ∈ (schema.interpret stamp).entities)
    (table : entity.isEnum = false) (read : schema.model? entity.name = some model) :
    ∃ results, entity.Gathers results ∧
      List.Forall₂
        (fun field result =>
          result.fieldName = field.name ∧
          result.DecidedBy schema (valueName field.type.innermost) ∧
          (result.DecidedAsWritten schema field.type.innermost ↔
            ¬ schema.Captures field.type.innermost))
        model.fields results := by
  refine ⟨schema.outcomes entity.name model,
    ⟨columns_of_mem listed table read, relations_of_mem listed table read⟩, ?_⟩
  unfold outcomes
  rw [List.forall₂_map_right_iff, List.forall₂_same]
  intro field _
  exact ⟨fieldName_outcome, schema.outcome_decidedBy entity.name field,
    schema.outcome_decidedAsWritten_iff entity.name field⟩

end Fields

/-! ### A schema that captures a builtin type -/

/-- A schema with a model that is called what points in time are called in code. -/
def birthdays : Schema where
  declarations :=
    [.model ⟨"Date", []⟩, .model ⟨"User", [.field ⟨"born", .named "DateTime", []⟩]⟩]

/-- The table of the users in `birthdays`. -/
def birthdayUsers : Entity :=
  (birthdays.interpretEntity (.model "User" {})).entity

theorem birthdayUsers_mem : birthdayUsers ∈ (birthdays.interpret {}).entities :=
  List.mem_cons_of_mem _ List.mem_cons_self

theorem fields_decided_birthdayUsers :
    ∃ results, birthdayUsers.Gathers results ∧
      List.Forall₂
        (fun (field : Field) (result : FieldResult) =>
          result.fieldName = field.name ∧
          result.DecidedBy birthdays (valueName field.type.innermost) ∧
          (result.DecidedAsWritten birthdays field.type.innermost ↔
            ¬ birthdays.Captures field.type.innermost))
        [⟨"born", .named "DateTime", []⟩] results :=
  fields_decided birthdayUsers_mem rfl rfl

/-- The field `born` of `birthdays` is a point in time, but becomes no column. -/
theorem birthdayUsers_not_decidedAsWritten :
    birthdayUsers ∈ (birthdays.interpret {}).entities ∧ birthdayUsers.isEnum = false ∧
      ∃ model, birthdays.model? birthdayUsers.name = some model ∧
        ¬ ∃ results, birthdayUsers.Gathers results ∧
          List.Forall₂
            (fun field result =>
              result.fieldName = field.name ∧
              result.DecidedAsWritten birthdays field.type.innermost)
            model.fields results := by
  refine ⟨birthdayUsers_mem, rfl, _, rfl, ?_⟩
  rintro ⟨results, gathers, decided⟩
  obtain ⟨result, rest, ⟨-, written⟩, -, rfl⟩ := List.forall₂_cons_left_iff.mp decided
  rw [FieldResult.DecidedAsWritten, if_pos (by decide)] at written
  obtain ⟨c, rfl, -⟩ := written
  exact absurd gathers.columns (List.cons_ne_nil c _).symm

end Schema

end EntityMapping
