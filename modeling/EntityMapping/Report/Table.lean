/-
Module: EntityMapping.Report.Table
Purpose: The reports as text for people.
Main exports: dashIfNone, EntitiesReport.tableText, RelationsReport.tableText
-/
import EntityMapping.Report.Basic

namespace EntityMapping

/-- A text, or a dash where there is none. -/
def dashIfNone (text : Option String) : String :=
  text.getD "-"

/-- A list with commas between its items. -/
def commaList (texts : List String) : String :=
  ", ".intercalate texts

/-- The type of a column, with its length. -/
def Column.typeText (column : Column) : String :=
  match column.dbType, column.length with
  | some dbType, some length => dbType ++ "(" ++ Nat.repr length ++ ")"
  | some dbType, none => dbType
  | none, _ => "enum " ++ dashIfNone column.enumType

/-- What holds of a column, in a fixed order. -/
def Column.flags (column : Column) : List String :=
  (if column.primary then ["primary"] else []) ++
    (if column.generated then ["generated"] else []) ++
    (if column.unique then ["unique"] else []) ++
    (if column.nullable then ["nullable"] else []) ++
    (column.default.map ("default " ++ ·)).toList

/-- The line of a column. -/
def Column.tableLine (column : Column) : String :=
  let start := "    " ++ column.name ++ ": " ++ column.typeText
  if column.flags.isEmpty then start else start ++ " [" ++ commaList column.flags ++ "]"

/-- The line of an index. -/
def Index.tableLine (index : Index) : String :=
  let kind :=
    if index.fulltext then " fulltext" else if index.unique then " unique" else ""
  "    " ++ index.name ++ " (" ++ commaList index.columns ++ ")" ++ kind

/-- The field that leads back, or a question mark. -/
def inverseText (relatedField : String) : String :=
  if relatedField.isEmpty then "?" else relatedField

/-- The line of a relation. -/
def Relation.tableLine (relation : Relation) : String :=
  "    " ++ relation.fieldName ++ " -> " ++ relation.relatedTable ++ "." ++
    inverseText relation.relatedField ++ " " ++ relation.cardinality.name ++
    ((relation.joinText?.map (" via " ++ ·)).getD "")

/-- A part of an entity under a heading, if it has any. -/
def underHeading {α : Type} (heading : String) (tableLine : α → String) (items : List α) :
    List String :=
  if items.isEmpty then [] else heading :: items.map tableLine

/-- The lines of an entity. -/
def Entity.tableLines (entity : Entity) : List String :=
  if entity.isEnum then ["enum " ++ entity.name ++ ": " ++ commaList entity.enumValues]
  else
    entity.name ::
      underHeading "  columns:" Column.tableLine entity.columns ++
      underHeading "  indices:" Index.tableLine entity.indices ++
      underHeading "  relations:" Relation.tableLine entity.relations ++
      (if entity.imports.isEmpty then []
       else ["  imports: " ++ commaList (entity.imports.map ImportedFile.entityName)])

/-- A report on entities as text. -/
def EntitiesReport.tableText (report : EntitiesReport) : String :=
  let entities :=
    if report.entities.isEmpty then ["No entities found."]
    else
      ("Entities (" ++ Nat.repr report.entities.length ++ "):") ::
        report.entities.flatMap fun entity => "" :: entity.tableLines
  let diagnostics :=
    if report.diagnostics.isEmpty then []
    else
      "" :: ("Diagnostics (" ++ Nat.repr report.diagnostics.length ++ "):") ::
        report.diagnostics.map fun diagnostic => "  " ++ diagnostic.display
  "\n".intercalate (
    ("Schema: " ++ report.file ++ " (database: " ++ report.database ++ ", schema: " ++
      report.schema ++ ")") ::
      "" :: entities ++ diagnostics)

/-- The line of an edge. -/
def Edge.tableLine (edge : Edge) : String :=
  "  " ++ edge.entity ++ "." ++ edge.field ++ " -> " ++ edge.relatedTable ++ "." ++
    inverseText edge.relatedField ++ " " ++ edge.cardinality.name ++
    ((edge.relationName.map fun name => " \"" ++ name ++ "\"").getD "") ++
    ((edge.join.map (" via " ++ ·)).getD "")

/-- A report on relations as text. -/
def RelationsReport.tableText (report : RelationsReport) : String :=
  let edges :=
    if report.edges.isEmpty then ["No relations found."]
    else
      ("Edges (" ++ Nat.repr report.edges.length ++ "):") ::
        report.edges.map Edge.tableLine
  "\n".intercalate (("Relations: " ++ report.file) :: "" :: edges)

end EntityMapping
