/-
Module: EntityMapping.Interpretation.Basic
Purpose: The entities that a schema describes. First every declaration gets a draft; then the
  members of each model are interpreted, with the whole schema at hand to look names up.
Main exports: Interpretation, Schema.interpret
-/
import EntityMapping.Interpretation.FieldResult
import EntityMapping.Interpretation.ModelIndex

namespace EntityMapping

open Schema (Declaration Member Model)

/-- The entities of a schema and the diagnostics about it. -/
structure Interpretation where
  entities : List Entity
  diagnostics : List Diagnostic
deriving DecidableEq, Repr

/-- The first entity of a name. -/
def Interpretation.entity? (interpretation : Interpretation) (name : String) : Option Entity :=
  interpretation.entities.find? (·.name == name)

/-- The draft of a declaration's entity. -/
def Schema.Declaration.draft? (stamp : Stamp) : Declaration → Option Entity
  | .model m => some (.model m.name stamp)
  | .enumeration e => some (.enumeration e.name e.values stamp)
  | .unknown => none

/-- The diagnostic about a declaration at a position. -/
def Schema.Declaration.diagnostic? (position : Nat) : Declaration → Option Diagnostic
  | .unknown =>
      some {
        kind := .unrecognizedDeclaration
        location := .declaration position
        message := "declaration is neither a model nor an enum; skipped" }
  | _ => none

namespace Draft

/-- Interprets a member of the entity's model. -/
def addMember (schema : Schema) (draft : Draft) : Member → Draft
  | .field f => draft.addField schema f
  | .modelAttribute a => draft.declareIndex a
  | .other => draft

/-- Interprets the members of a model, in order. -/
def addModel (schema : Schema) (draft : Draft) (model : Model) : Draft :=
  model.members.foldl (addMember schema) draft

end Draft

namespace Schema

/-- Fills in the draft of an entity. An enumeration is complete; a model takes the members of the
model that its name refers to, if it is one. -/
def interpretEntity (schema : Schema) (entity : Entity) : Draft :=
  let draft : Draft := { entity := entity, diagnostics := [] }
  if entity.isEnum then draft
  else
    match schema.model? entity.name with
    | some model => draft.addModel schema model
    | none => draft

/-- The drafts of the entities, one per model or enumeration. -/
def drafts (schema : Schema) (stamp : Stamp) : List Entity :=
  schema.declarations.filterMap (Declaration.draft? stamp)

/-- The diagnostics about declarations of no known sort. -/
def unrecognized (schema : Schema) : List Diagnostic :=
  (schema.declarations.mapIdx Declaration.diagnostic?).filterMap id

/-- The entities of a schema, in the order of their declarations, and the diagnostics. -/
def interpret (schema : Schema) (stamp : Stamp) : Interpretation :=
  let interpreted := (schema.drafts stamp).map schema.interpretEntity
  { entities := interpreted.map Draft.entity
    diagnostics := schema.unrecognized ++ interpreted.flatMap Draft.diagnostics }

end Schema

end EntityMapping
