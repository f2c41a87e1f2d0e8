/-
Module: EntityMapping.Report.Basic
Purpose: What the commands answer: the entities of a schema, or the relations between them.
Main exports: EntitiesReport, Edge, RelationsReport
-/
import EntityMapping.Report.Encoding

namespace EntityMapping

open Json (Value)

/-- The entities of a schema file and the diagnostics about it. -/
structure EntitiesReport where
  file : String
  database : String
  schema : String
  entities : List Entity
  diagnostics : List Diagnostic
deriving DecidableEq, Repr

/-- A report as a value. -/
def EntitiesReport.toValue (report : EntitiesReport) : Value :=
  .object [
    ("file", .string report.file),
    ("database", .string report.database),
    ("schema", .string report.schema),
    ("entities", .array (report.entities.map Entity.toValue)),
    ("diagnostics", .array (report.diagnostics.map Diagnostic.toValue))]

/-- A relation together with the entity that owns it. -/
structure Edge where
  entity : String
  field : String
  cardinality : Cardinality
  relatedTable : String
  relatedField : String
  relationName : Option String := none
  join : Option String := none
deriving DecidableEq, Repr

namespace Edge

/-- The edge of an entity's relation. -/
def ofRelation (entity : String) (relation : Relation) : Edge where
  entity := entity
  field := relation.fieldName
  cardinality := relation.cardinality
  relatedTable := relation.relatedTable
  relatedField := relation.relatedField
  relationName := relation.relationName
  join := relation.joinText?

/-- An edge as a value. -/
def toValue (edge : Edge) : Value :=
  .object (
    [("entity", .string edge.entity),
     ("field", .string edge.field),
     ("kind", edge.cardinality.toValue),
     ("related_table", .string edge.relatedTable),
     ("related_field", .string edge.relatedField)] ++
    optionalMember "relation_name" .string edge.relationName ++
    optionalMember "join" .string edge.join)

end Edge

/-- The relations between the entities of a schema file. -/
structure RelationsReport where
  file : String
  edges : List Edge
deriving DecidableEq, Repr

/-- A report as a value. -/
def RelationsReport.toValue (report : RelationsReport) : Value :=
  .object [
    ("file", .string report.file),
    ("edges", .array (report.edges.map Edge.toValue))]

end EntityMapping
