/-
Module: EntityMapping.Report.Encoding
Purpose: Entities and diagnostics as JSON values. A part that is absent, empty or false by default
  is left out where the record says so.
Main exports: Entity.toValue, Relation.toValue, Diagnostic.toValue
-/
import EntityMapping.Diagnostic
import EntityMapping.Entity.Basic
import EntityMapping.Json.Value

namespace EntityMapping

open Json (Value)

/-- A list of strings as a value. -/
def Json.Value.strings (texts : List String) : Value :=
  .array (texts.map .string)

/-- A member that is left out when its value is absent. -/
def optionalMember {α : Type} (name : String) (encode : α → Value) :
    Option α → List (String × Value)
  | some a => [(name, encode a)]
  | none => []

/-- A member that is left out when its list is empty. -/
def nonemptyMember {α : Type} (name : String) (encode : α → Value) :
    List α → List (String × Value)
  | [] => []
  | items => [(name, .array (items.map encode))]

/-- A column as a value. -/
def Column.toValue (column : Column) : Value :=
  .object (
    [("name", .string column.name)] ++
    optionalMember "db_type" .string column.dbType ++
    [("value_type", .string column.valueType),
     ("nullable", .boolean column.nullable),
     ("unique", .boolean column.unique)] ++
    optionalMember "length" .natural column.length ++
    optionalMember "default" .string column.default ++
    [("primary", .boolean column.primary),
     ("generated", .boolean column.generated)] ++
    optionalMember "enum_type" .string column.enumType)

/-- An index as a value. -/
def Index.toValue (index : Index) : Value :=
  .object [
    ("name", .string index.name),
    ("columns", .strings index.columns),
    ("unique", .boolean index.unique),
    ("fulltext", .boolean index.fulltext)]

/-- A file import as a value. -/
def ImportedFile.toValue (imported : ImportedFile) : Value :=
  .object [
    ("entity_name", .string imported.entityName),
    ("file_name", .string imported.fileName)]

/-- A pair of joined columns as a value. -/
def JoinColumn.toValue (column : JoinColumn) : Value :=
  .object [
    ("name", .string column.name),
    ("referenced_column_name", .string column.referenced)]

/-- A join table as a value. -/
def JoinTable.toValue (table : JoinTable) : Value :=
  .object [
    ("name", .string table.name),
    ("join_columns", .array (table.joinColumns.map JoinColumn.toValue)),
    ("inverse_join_columns", .array (table.inverseJoinColumns.map JoinColumn.toValue))]

/-- A referential action as a value. -/
def ReferentialAction.toValue (action : ReferentialAction) : Value :=
  .string action.sql

/-- Referential rules as a value. -/
def ReferentialRules.toValue (rules : ReferentialRules) : Value :=
  .object (
    optionalMember "on_delete" ReferentialAction.toValue rules.onDelete ++
    optionalMember "on_update" ReferentialAction.toValue rules.onUpdate)

/-- A cardinality as a value. -/
def Cardinality.toValue (cardinality : Cardinality) : Value :=
  .string cardinality.name

/-- A relation as a value. -/
def Relation.toValue (relation : Relation) : Value :=
  .object (
    [("kind", relation.cardinality.toValue),
     ("related_table", .string relation.relatedTable),
     ("related_field", .string relation.relatedField),
     ("field_name", .string relation.fieldName)] ++
    optionalMember "relation_name" .string relation.relationName ++
    nonemptyMember "join_columns" JoinColumn.toValue relation.joinColumns ++
    optionalMember "join_table" JoinTable.toValue relation.joinTable ++
    optionalMember "options" ReferentialRules.toValue relation.rules)

/-- An entity as a value. -/
def Entity.toValue (entity : Entity) : Value :=
  .object (
    [("sql_name", .string entity.sqlName),
     ("name", .string entity.name),
     ("file_name", .string entity.fileName),
     ("database", .string entity.database),
     ("schema", .string entity.schema)] ++
    (if entity.isEnum then [("is_enum", .boolean true)] else []) ++
    nonemptyMember "enum_values" .string entity.enumValues ++
    [("columns", .array (entity.columns.map Column.toValue)),
     ("indices", .array (entity.indices.map Index.toValue)),
     ("relations", .array (entity.relations.map Relation.toValue)),
     ("file_imports", .array (entity.imports.map ImportedFile.toValue))])

/-- A location as a value; its scope says which of the sorts it is. -/
def Location.toValue : Location → Value
  | .declaration position =>
      .object [("scope", .string "declaration"), ("index", .natural position)]
  | .entity name =>
      .object [("scope", .string "entity"), ("entity", .string name)]
  | .field owner name =>
      .object [("scope", .string "field"), ("entity", .string owner), ("field", .string name)]

/-- A diagnostic as a value. -/
def Diagnostic.toValue (diagnostic : Diagnostic) : Value :=
  .object [
    ("kind", .string diagnostic.kind.name),
    ("location", diagnostic.location.toValue),
    ("message", .string diagnostic.message)]

end EntityMapping
