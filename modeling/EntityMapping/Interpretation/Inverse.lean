/-
Module: EntityMapping.Interpretation.Inverse
Purpose: Relations from the shapes of two fields: the one that refers to another model, and the
  first field of that model that refers back.
Main exports: Model.backReferences, Draft.reportInverse, Field.relationTo
-/
import EntityMapping.Interpretation.RelationClause

namespace EntityMapping

open Schema (Field Model)

/-- The fields of a model whose innermost type has the given name, in order. -/
def Schema.Model.backReferences (related : Model) (owner : String) : List Field :=
  related.fields.filter (·.type.innermost == owner)

/-- Reports a field of the entity to which several fields of `related` lead back, or none. -/
def Draft.reportInverse (draft : Draft) (field : Field) (related : Model) : Draft :=
  match related.backReferences draft.entity.name with
  | [] =>
      draft.reportField field.name .missingInverse
        (related.name ++ " has no field of type " ++ draft.entity.name ++
          "; inverse left empty")
  | [_] => draft
  | first :: _ =>
      draft.reportField field.name .ambiguousInverse
        (related.name ++ " has several fields of type " ++ draft.entity.name ++ "; using " ++
          first.name ++ " as the inverse")

/-- The relation of a field of the entity named `owner` to the model `related`. The first field
that leads back is its inverse; with none, the field that leads back counts as no list. -/
def Schema.Field.relationTo (owner : String) (related : Model) (clause : RelationClause)
    (field : Field) : Relation :=
  let inverse := (related.backReferences owner).head?
  let cardinality :=
    Cardinality.ofShapes (related.name == owner) field.type.isList
      (inverse.any (·.type.isList))
  { cardinality := cardinality
    relatedTable := related.name
    relatedField := (inverse.map (·.name)).getD ""
    fieldName := field.name
    relationName := clause.name
    joinColumns := clause.joinColumns
    joinTable :=
      if cardinality = .manyToMany then some (.linking owner related.name) else none
    rules := clause.rules }

end EntityMapping
