/-
Module: EntityMapping.Interpretation.RelationClause
Purpose: What the relation attributes of a field state: the name of the relation, the pairs of
  columns that join it and its referential actions.
Main exports: RelationClause, RelationReading, Draft.readRelation
-/
import EntityMapping.Interpretation.Draft
import EntityMapping.Schema.Basic

namespace EntityMapping

open Schema (Argument Attribute Expr)

/-- What a field's relation attributes state. -/
structure RelationClause where
  name : Option String := none
  joinColumns : List JoinColumn := []
  rules : Option ReferentialRules := none
deriving DecidableEq, Repr, Inhabited

/-- The action that an expression names. An expression that is no word means no action. -/
def ReferentialAction.ofExpr (expr : Expr) : ReferentialAction :=
  match expr.word? with
  | some word => .ofWord word
  | none => .noAction

namespace RelationClause

/-- Sets the action on delete. -/
def onDelete (clause : RelationClause) (action : ReferentialAction) : RelationClause :=
  { clause with
    rules := some { clause.rules.getD {} with onDelete := some action } }

/-- Sets the action on update. -/
def onUpdate (clause : RelationClause) (action : ReferentialAction) : RelationClause :=
  { clause with
    rules := some { clause.rules.getD {} with onUpdate := some action } }

end RelationClause

/-- A relation attribute part way through its arguments: the clause so far, and the two lists of
columns that this attribute has given. -/
structure RelationReading where
  draft : Draft
  clause : RelationClause
  fields : List String := []
  references : List String := []

namespace RelationReading

/-- Records that an argument is of no use. -/
def unknown (reading : RelationReading) (field message : String) : RelationReading :=
  { reading with draft := reading.draft.reportField field .unknownRelationArgument message }

/-- Takes in one argument of a relation attribute of the field named `field`. A positional literal
and a named `name` give the relation's name; `fields` and `references` must be lists of names. -/
def argument (field : String) (reading : RelationReading) : Argument → RelationReading
  | .positional (.literal value) =>
      { reading with clause := { reading.clause with name := some value.display } }
  | .positional _ =>
      reading.unknown field "positional relation argument is not a name literal; ignored"
  | .named name expression =>
      if name = "fields" ∨ name = "references" then
        match expression.names? with
        | none =>
            reading.unknown field
              ("relation " ++ name ++ " is not a list of column names; ignored")
        | some columns =>
            if name = "fields" then { reading with fields := columns }
            else { reading with references := columns }
      else if name = "name" then
        { reading with clause := { reading.clause with name := expression.word? } }
      else if name = "onDelete" then
        { reading with clause := reading.clause.onDelete (.ofExpr expression) }
      else if name = "onUpdate" then
        { reading with clause := reading.clause.onUpdate (.ofExpr expression) }
      else reading.unknown field ("unknown relation argument: " ++ name)

/-- Closes a relation attribute: its columns are joined pairwise, and those without a partner are
reported and dropped. -/
def finish (field : String) (reading : RelationReading) : RelationReading :=
  let reading :=
    if reading.fields.length = reading.references.length then reading
    else
      reading.unknown field
        ("relation has " ++ Nat.repr reading.fields.length ++ " fields but " ++
          Nat.repr reading.references.length ++ " references; unpaired columns ignored")
  let pairs := List.zipWith JoinColumn.mk reading.fields reading.references
  { reading with
    clause :=
      { reading.clause with joinColumns := reading.clause.joinColumns ++ pairs } }

end RelationReading

/-- Takes a relation attribute of the field named `field` into a clause. -/
def Draft.readRelation (draft : Draft) (field : String) (clause : RelationClause)
    (attr : Attribute) : RelationReading :=
  (attr.args.foldl (RelationReading.argument field)
    { draft := draft, clause := clause }).finish field

end EntityMapping
