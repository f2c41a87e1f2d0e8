/-
Module: EntityMapping.Interpretation.Draft
Purpose: An entity while its members are interpreted, with the diagnostics so far.
Main exports: Draft
-/
import EntityMapping.Diagnostic
import EntityMapping.Entity.Basic

namespace EntityMapping

/-- An entity under construction and the diagnostics about it, in order. -/
structure Draft where
  entity : Entity
  diagnostics : List Diagnostic

namespace Draft

/-- Records a diagnostic. -/
def report (draft : Draft) (kind : Diagnostic.Kind) (location : Location) (message : String) :
    Draft :=
  { draft with
    diagnostics :=
      draft.diagnostics ++ [{ kind := kind, location := location, message := message }] }

/-- Records a diagnostic about a field of the entity. -/
def reportField (draft : Draft) (field : String) (kind : Diagnostic.Kind) (message : String) :
    Draft :=
  draft.report kind (.field draft.entity.name field) message

/-- Records a diagnostic about the entity. -/
def reportEntity (draft : Draft) (kind : Diagnostic.Kind) (message : String) : Draft :=
  draft.report kind (.entity draft.entity.name) message

/-- Adds an index to the entity unless it has one of that name. -/
def insertIndex (draft : Draft) (index : Index) : Draft :=
  { draft with entity := (draft.entity.insertIndex index).1 }

/-- Adds a file import to the entity unless it has it. -/
def insertImport (draft : Draft) (name : String) : Draft :=
  { draft with entity := (draft.entity.insertImport name).1 }

end Draft

end EntityMapping
