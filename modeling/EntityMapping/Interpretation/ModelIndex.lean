/-
Module: EntityMapping.Interpretation.ModelIndex
Purpose: The attributes of a model that declare an index over several columns.
Main exports: Argument.columns?, Draft.declareIndex
-/
import EntityMapping.Interpretation.Draft
import EntityMapping.Schema.Basic

namespace EntityMapping

open Schema (Argument Attribute)

/-- The list of columns that an argument gives: a list by position, or named `fields`. -/
def Schema.Argument.columns? : Argument → Option (List String)
  | .positional expr => expr.names?
  | .named name expression => if name = "fields" then expression.names? else none

/-- Interprets an attribute of a model. One that has a segment `index`, `unique` or `fulltext`
declares an index over the columns of its first argument; any other is reported. -/
def Draft.declareIndex (draft : Draft) (attr : Attribute) : Draft :=
  let unique := attr.mentions "unique"
  let fulltext := attr.mentions "fulltext"
  if unique || fulltext || attr.mentions "index" then
    match attr.args.head?.bind Argument.columns? with
    | some (column :: columns) =>
        draft.insertIndex (.ofColumns draft.entity.name (column :: columns) unique fulltext)
    | _ =>
        draft.reportEntity .malformedIndex
          ("@@" ++ attr.dottedName ++ " has no usable column list; ignored")
  else
    draft.reportEntity .unrecognizedBlockAttribute
      ("@@" ++ attr.dottedName ++ " is not an index; ignored")

end EntityMapping
