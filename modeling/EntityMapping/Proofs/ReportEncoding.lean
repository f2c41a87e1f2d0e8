/-
Module: EntityMapping.Proofs.ReportEncoding
Purpose: The reports as JSON values lose nothing. What is left out of a record because it is absent,
  empty or not set, can be told from the rest of it, and so can the sorts of relations, actions,
  diagnostics and places from their names.
Main exports: Column.faithful_toValue, Relation.faithful_toValue, Entity.faithful_toValue,
  Location.faithful_toValue, Diagnostic.faithful_toValue, Edge.faithful_toValue,
  reports_alike_iff
-/
import EntityMapping.Proofs.RecordEncoding
import EntityMapping.Report.Basic

namespace EntityMapping

open Json (Faithful RecordPart Value faithful_boolean faithful_natural faithful_of_parts
  faithful_string)

/-! ### Members that may be left out -/

theorem optionalMember_eq {α : Type} (name : String) (encode : α → Value) (content : Option α) :
    optionalMember name encode content = (content.map encode).toList.map (name, ·) := by
  cases content <;> rfl

theorem nonemptyMember_eq {α : Type} (name : String) (encode : α → Value) (items : List α) :
    nonemptyMember name encode items =
      (if items.isEmpty then none else some (Value.array (items.map encode))).toList.map
        (name, ·) := by
  cases items <;> rfl

/-! ### Names -/

theorem Cardinality.name_injective : Function.Injective name := by
  intro first second
  cases first <;> cases second <;> simp [name]

theorem ReferentialAction.sql_injective : Function.Injective sql := by
  intro first second
  cases first <;> cases second <;> simp [sql]

theorem Diagnostic.Kind.name_injective : Function.Injective name := by
  intro first second
  cases first <;> cases second <;> simp [name]

/-! ### Columns, indices and imports -/

/-- The parts of a column. -/
def Column.parts : List (RecordPart Column) :=
  [.always "name" name .string faithful_string,
    .optional "db_type" dbType .string faithful_string,
    .always "value_type" valueType .string faithful_string,
    .always "nullable" nullable .boolean faithful_boolean,
    .always "unique" unique .boolean faithful_boolean,
    .optional "length" length .natural faithful_natural,
    .optional "default" default .string faithful_string,
    .always "primary" primary .boolean faithful_boolean,
    .always "generated" generated .boolean faithful_boolean,
    .optional "enum_type" enumType .string faithful_string]

theorem Column.faithful_toValue : Faithful toValue := by
  apply faithful_of_parts parts (by decide)
  · intro column
    simp [toValue, parts, RecordPart.members, RecordPart.always, RecordPart.optional,
      optionalMember_eq]
  · intro first second same
    cases first
    cases second
    simpa [parts, RecordPart.always, RecordPart.optional] using same

/-- The parts of an index. -/
def Index.parts : List (RecordPart Index) :=
  [.always "name" name .string faithful_string,
    .list "columns" columns .string faithful_string,
    .always "unique" unique .boolean faithful_boolean,
    .always "fulltext" fulltext .boolean faithful_boolean]

theorem Index.faithful_toValue : Faithful toValue := by
  apply faithful_of_parts parts (by decide)
  · intro index
    rfl
  · intro first second same
    cases first
    cases second
    simpa [parts, RecordPart.always, RecordPart.list] using same

/-- The parts of a file import. -/
def ImportedFile.parts : List (RecordPart ImportedFile) :=
  [.always "entity_name" entityName .string faithful_string,
    .always "file_name" fileName .string faithful_string]

theorem ImportedFile.faithful_toValue : Faithful toValue := by
  apply faithful_of_parts parts (by decide)
  · intro imported
    rfl
  · intro first second same
    cases first
    cases second
    simpa [parts, RecordPart.always] using same

/-! ### Relations -/

/-- The parts of a pair of joined columns. -/
def JoinColumn.parts : List (RecordPart JoinColumn) :=
  [.always "name" name .string faithful_string,
    .always "referenced_column_name" referenced .string faithful_string]

theorem JoinColumn.faithful_toValue : Faithful toValue := by
  apply faithful_of_parts parts (by decide)
  · intro column
    rfl
  · intro first second same
    cases first
    cases second
    simpa [parts, RecordPart.always] using same

/-- The parts of a join table. -/
def JoinTable.parts : List (RecordPart JoinTable) :=
  [.always "name" name .string faithful_string,
    .list "join_columns" joinColumns JoinColumn.toValue JoinColumn.faithful_toValue,
    .list "inverse_join_columns" inverseJoinColumns JoinColumn.toValue
      JoinColumn.faithful_toValue]

theorem JoinTable.faithful_toValue : Faithful toValue := by
  apply faithful_of_parts parts (by decide)
  · intro table
    rfl
  · intro first second same
    cases first
    cases second
    simpa [parts, RecordPart.always, RecordPart.list] using same

theorem ReferentialAction.faithful_toValue : Faithful toValue :=
  faithful_string.comp sql_injective

theorem Cardinality.faithful_toValue : Faithful toValue :=
  faithful_string.comp name_injective

/-- The parts of referential rules. -/
def ReferentialRules.parts : List (RecordPart ReferentialRules) :=
  [.optional "on_delete" onDelete ReferentialAction.toValue ReferentialAction.faithful_toValue,
    .optional "on_update" onUpdate ReferentialAction.toValue ReferentialAction.faithful_toValue]

theorem ReferentialRules.faithful_toValue : Faithful toValue := by
  apply faithful_of_parts parts (by decide)
  · intro rules
    simp [toValue, parts, RecordPart.members, RecordPart.optional, optionalMember_eq]
  · intro first second same
    cases first
    cases second
    simpa [parts, RecordPart.optional] using same

/-- The parts of a relation. -/
def Relation.parts : List (RecordPart Relation) :=
  [.always "kind" cardinality Cardinality.toValue Cardinality.faithful_toValue,
    .always "related_table" relatedTable .string faithful_string,
    .always "related_field" relatedField .string faithful_string,
    .always "field_name" fieldName .string faithful_string,
    .optional "relation_name" relationName .string faithful_string,
    .nonempty "join_columns" joinColumns JoinColumn.toValue JoinColumn.faithful_toValue,
    .optional "join_table" joinTable JoinTable.toValue JoinTable.faithful_toValue,
    .optional "options" rules ReferentialRules.toValue ReferentialRules.faithful_toValue]

theorem Relation.faithful_toValue : Faithful toValue := by
  apply faithful_of_parts parts (by decide)
  · intro relation
    simp [toValue, parts, RecordPart.members, RecordPart.always, RecordPart.optional,
      RecordPart.nonempty, optionalMember_eq, nonemptyMember_eq]
  · intro first second same
    cases first
    cases second
    simpa [parts, RecordPart.always, RecordPart.optional, RecordPart.nonempty] using same

/-! ### Entities -/

/-- The parts of an entity. -/
def Entity.parts : List (RecordPart Entity) :=
  [.always "sql_name" sqlName .string faithful_string,
    .always "name" name .string faithful_string,
    .always "file_name" fileName .string faithful_string,
    .always "database" database .string faithful_string,
    .always "schema" schema .string faithful_string,
    .mark "is_enum" isEnum,
    .nonempty "enum_values" enumValues .string faithful_string,
    .list "columns" columns Column.toValue Column.faithful_toValue,
    .list "indices" indices Index.toValue Index.faithful_toValue,
    .list "relations" relations Relation.toValue Relation.faithful_toValue,
    .list "file_imports" imports ImportedFile.toValue ImportedFile.faithful_toValue]

theorem Entity.faithful_toValue : Faithful toValue := by
  apply faithful_of_parts parts (by decide)
  · intro entity
    cases marked : entity.isEnum <;>
      simp [toValue, parts, RecordPart.members, RecordPart.always, RecordPart.list,
        RecordPart.nonempty, RecordPart.mark, nonemptyMember_eq, marked]
  · intro first second same
    cases first
    cases second
    simpa [parts, RecordPart.always, RecordPart.list, RecordPart.nonempty, RecordPart.mark]
      using same

/-! ### Diagnostics -/

/-- The scope of a place says which of the sorts it is. -/
def Location.scope : Location → String
  | .declaration _ => "declaration"
  | .entity _ => "entity"
  | .field _ _ => "field"

/-- The parts of a place: those of all its sorts. -/
def Location.parts : List (RecordPart Location) :=
  [.always "scope" scope .string faithful_string,
    .optional "index" (fun | .declaration position => some position | _ => none) .natural
      faithful_natural,
    .optional "entity"
      (fun | .entity name => some name | .field owner _ => some owner | _ => none) .string
      faithful_string,
    .optional "field" (fun | .field _ name => some name | _ => none) .string faithful_string]

theorem Location.faithful_toValue : Faithful toValue := by
  apply faithful_of_parts parts (by decide)
  · intro location
    cases location <;> rfl
  · intro first second same
    cases first <;> cases second <;> simp_all [parts, RecordPart.always, RecordPart.optional, scope]

/-- The parts of a diagnostic. -/
def Diagnostic.parts : List (RecordPart Diagnostic) :=
  [.always "kind" kind (fun kind => .string kind.name) (faithful_string.comp Kind.name_injective),
    .always "location" location Location.toValue Location.faithful_toValue,
    .always "message" message .string faithful_string]

theorem Diagnostic.faithful_toValue : Faithful toValue := by
  apply faithful_of_parts parts (by decide)
  · intro diagnostic
    rfl
  · intro first second same
    cases first
    cases second
    simpa [parts, RecordPart.always] using same

/-! ### Reports -/

/-- The parts of a report on entities. -/
def EntitiesReport.parts : List (RecordPart EntitiesReport) :=
  [.always "file" file .string faithful_string,
    .always "database" database .string faithful_string,
    .always "schema" schema .string faithful_string,
    .list "entities" entities Entity.toValue Entity.faithful_toValue,
    .list "diagnostics" diagnostics Diagnostic.toValue Diagnostic.faithful_toValue]

theorem EntitiesReport.faithful_toValue : Faithful toValue := by
  apply faithful_of_parts parts (by decide)
  · intro report
    rfl
  · intro first second same
    cases first
    cases second
    simpa [parts, RecordPart.always, RecordPart.list] using same

/-- The parts of an edge. -/
def Edge.parts : List (RecordPart Edge) :=
  [.always "entity" entity .string faithful_string,
    .always "field" field .string faithful_string,
    .always "kind" cardinality Cardinality.toValue Cardinality.faithful_toValue,
    .always "related_table" relatedTable .string faithful_string,
    .always "related_field" relatedField .string faithful_string,
    .optional "relation_name" relationName .string faithful_string,
    .optional "join" join .string faithful_string]

theorem Edge.faithful_toValue : Faithful toValue := by
  apply faithful_of_parts parts (by decide)
  · intro edge
    simp [toValue, parts, RecordPart.members, RecordPart.always, RecordPart.optional,
      optionalMember_eq]
  · intro first second same
    cases first
    cases second
    simpa [parts, RecordPart.always, RecordPart.optional] using same

/-- The parts of a report on relations. -/
def RelationsReport.parts : List (RecordPart RelationsReport) :=
  [.always "file" file .string faithful_string,
    .list "edges" edges Edge.toValue Edge.faithful_toValue]

theorem RelationsReport.faithful_toValue : Faithful toValue := by
  apply faithful_of_parts parts (by decide)
  · intro report
    rfl
  · intro first second same
    cases first
    cases second
    simpa [parts, RecordPart.always, RecordPart.list] using same

/-- Two reports are the same JSON exactly when they are the same report. -/
theorem reports_alike_iff :
    (∀ first second : EntitiesReport, first.toValue.Alike second.toValue ↔ first = second) ∧
      ∀ first second : RelationsReport, first.toValue.Alike second.toValue ↔ first = second := by
  constructor
  · intro first second
    refine ⟨EntitiesReport.faithful_toValue first second, ?_⟩
    rintro rfl
    exact first.toValue.alike_refl
  · intro first second
    refine ⟨RelationsReport.faithful_toValue first second, ?_⟩
    rintro rfl
    exact first.toValue.alike_refl

end EntityMapping
