/-
Module: EntityMapping.Interpretation.FieldResult
Purpose: What a field becomes. A field whose type refers to a model is a relation, any other is a
  column.
Main exports: FieldResult, Column.withGenerator, Draft.readField, Draft.addField
-/
import EntityMapping.Interpretation.FieldFacts
import EntityMapping.Interpretation.Inverse
import EntityMapping.Text.Uppercase

namespace EntityMapping

open Schema (Field)

/-- What a field contributes to its entity. -/
inductive FieldResult where
  | column (c : Column)
  | relation (r : Relation)
deriving DecidableEq, Repr

/-- A primary key with a default is generated by the database: the default and the length are
dropped and the storage type follows from the generator. -/
def Column.withGenerator (column : Column) : Column :=
  match column.default with
  | none => column
  | some generator =>
      if column.primary && !generator.isEmpty then
        { column with
          dbType := some (if generator = "uuid" then "uuid" else "int")
          default := none
          length := none
          generated := true }
      else column

/-- The column of a field before its type is looked up. -/
def Schema.Field.plainColumn (field : Field) (facts : FieldFacts) : Column where
  name := field.name
  dbType := some (facts.dbType.getD (storageName field.type.innermost))
  valueType := valueName field.type.innermost
  nullable := field.type.isOptional
  unique := facts.unique
  length := facts.length
  default := facts.default
  primary := facts.primary

/-- The column of a field whose type is the given enumeration. Its default is one of the values,
in capitals after the name of the enumeration. -/
def Schema.Field.enumColumn (field : Field) (facts : FieldFacts) (enumeration : String) : Column :=
  { field.plainColumn facts with
    dbType := none
    default := facts.default.map fun value => enumeration ++ "." ++ Text.uppercase value
    enumType := some enumeration }

namespace Draft

/-- Interprets a field of the entity. Its attributes come first; then the name of its type in
code decides what it refers to. -/
def readField (schema : Schema) (draft : Draft) (field : Field) : FieldResult × Draft :=
  let reading := draft.readAttributes field
  match schema.lookup (valueName field.type.innermost) with
  | some (.model related) =>
      (.relation
        (field.relationTo reading.draft.entity.name related (reading.facts.relation.getD {})),
        reading.draft.reportInverse field related)
  | some (.enumeration enumeration) =>
      (.column (field.enumColumn reading.facts enumeration.name).withGenerator,
        reading.draft.insertImport enumeration.name)
  | some .unknown | none =>
      (.column (field.plainColumn reading.facts).withGenerator, reading.draft)

/-- Adds what a field became to the entity. -/
def append (draft : Draft) : FieldResult → Draft
  | .column c =>
      { draft with entity := { draft.entity with columns := draft.entity.columns ++ [c] } }
  | .relation r =>
      { draft with entity := { draft.entity with relations := draft.entity.relations ++ [r] } }

/-- Interprets a field and adds what it became. -/
def addField (schema : Schema) (draft : Draft) (field : Field) : Draft :=
  let (result, draft) := draft.readField schema field
  draft.append result

end Draft

end EntityMapping
