/-
Module: EntityMapping.Proofs.Contribution
Purpose: What an operation adds to a draft, apart from the draft it is added to. Every operation of
  the interpretation extends its draft by a contribution that no earlier one can change, so that
  what a run adds is what its steps add, one after the other.
Main exports: appendEachNew, Contribution, Draft.extend, Draft.extend_extend
-/
import EntityMapping.Interpretation.FieldResult

namespace EntityMapping

section KeyedList

variable {α κ : Type} [BEq κ] (key : α → κ)

/-- Appends each of `added` that has a new key, in order. -/
def appendEachNew (items added : List α) : List α :=
  added.foldl (fun kept item => (appendIfNew key kept item).1) items

@[simp] theorem appendEachNew_nil (items : List α) : appendEachNew key items [] = items := rfl

@[simp] theorem appendEachNew_singleton (items : List α) (item : α) :
    appendEachNew key items [item] = (appendIfNew key items item).1 := rfl

theorem appendEachNew_append (items first second : List α) :
    appendEachNew key items (first ++ second) =
      appendEachNew key (appendEachNew key items first) second :=
  List.foldl_append

end KeyedList

/-- What is added to a draft: columns, relations and diagnostics, and the indices and imports that
are taken in unless there is one of that name. -/
@[ext]
structure Contribution where
  columns : List Column := []
  relations : List Relation := []
  indices : List Index := []
  imports : List ImportedFile := []
  diagnostics : List Diagnostic := []

namespace Contribution

instance : Append Contribution where
  append first second :=
    { columns := first.columns ++ second.columns
      relations := first.relations ++ second.relations
      indices := first.indices ++ second.indices
      imports := first.imports ++ second.imports
      diagnostics := first.diagnostics ++ second.diagnostics }

variable (first second : Contribution)

@[simp] theorem columns_append :
    (first ++ second).columns = first.columns ++ second.columns := rfl

@[simp] theorem relations_append :
    (first ++ second).relations = first.relations ++ second.relations := rfl

@[simp] theorem indices_append :
    (first ++ second).indices = first.indices ++ second.indices := rfl

@[simp] theorem imports_append :
    (first ++ second).imports = first.imports ++ second.imports := rfl

@[simp] theorem diagnostics_append :
    (first ++ second).diagnostics = first.diagnostics ++ second.diagnostics := rfl

@[simp] theorem mk_append_mk (c c' : List Column) (r r' : List Relation) (i i' : List Index)
    (f f' : List ImportedFile) (d d' : List Diagnostic) :
    mk c r i f d ++ mk c' r' i' f' d' =
      mk (c ++ c') (r ++ r') (i ++ i') (f ++ f') (d ++ d') := rfl

@[simp] theorem append_empty : first ++ {} = first := by
  apply Contribution.ext <;> simp

@[simp] theorem append_assoc (third : Contribution) :
    first ++ second ++ third = first ++ (second ++ third) := by
  apply Contribution.ext <;> simp

/-- All of some contributions, one after the other. -/
def concat (parts : List Contribution) : Contribution where
  columns := parts.flatMap columns
  relations := parts.flatMap relations
  indices := parts.flatMap indices
  imports := parts.flatMap imports
  diagnostics := parts.flatMap diagnostics

@[simp] theorem concat_nil : concat [] = {} := rfl

@[simp] theorem concat_cons (part : Contribution) (parts : List Contribution) :
    concat (part :: parts) = part ++ concat parts := by
  apply Contribution.ext <;> simp [concat]

end Contribution

namespace Draft

/-- The draft with a contribution added to it. -/
def extend (draft : Draft) (part : Contribution) : Draft where
  entity :=
    { draft.entity with
      columns := draft.entity.columns ++ part.columns
      relations := draft.entity.relations ++ part.relations
      indices := appendEachNew Index.name draft.entity.indices part.indices
      imports := appendEachNew ImportedFile.entityName draft.entity.imports part.imports }
  diagnostics := draft.diagnostics ++ part.diagnostics

variable (draft : Draft)

@[simp] theorem extend_name (part : Contribution) :
    (draft.extend part).entity.name = draft.entity.name := rfl

@[simp] theorem extend_empty : draft.extend {} = draft := by
  simp [extend]

/-- Two contributions one after the other are one contribution. -/
theorem extend_extend (first second : Contribution) :
    (draft.extend first).extend second = draft.extend (first ++ second) := by
  simp [extend, appendEachNew_append]

/-- A run of steps adds what its steps add, where what a step adds depends on the entity's name
alone. -/
theorem foldl_extend {α : Type} {step : Draft → α → Draft} {part : String → α → Contribution}
    (adds : ∀ draft item, step draft item = draft.extend (part draft.entity.name item))
    (items : List α) :
    items.foldl step draft =
      draft.extend (.concat (items.map (part draft.entity.name))) := by
  induction items generalizing draft with
  | nil => simp
  | cons item rest ih =>
      rw [List.foldl_cons, adds, ih, extend_extend]
      simp

/-! ### The operations on a draft -/

theorem reportField_eq (field : String) (kind : Diagnostic.Kind) (message : String) :
    draft.reportField field kind message =
      draft.extend
        { diagnostics := [⟨kind, .field draft.entity.name field, message⟩] } := by
  simp [reportField, report, extend]

theorem reportEntity_eq (kind : Diagnostic.Kind) (message : String) :
    draft.reportEntity kind message =
      draft.extend { diagnostics := [⟨kind, .entity draft.entity.name, message⟩] } := by
  simp [reportEntity, report, extend]

theorem insertIndex_eq (index : Index) :
    draft.insertIndex index = draft.extend { indices := [index] } := by
  simp [insertIndex, Entity.insertIndex, extend]

theorem insertImport_eq (name : String) :
    draft.insertImport name = draft.extend { imports := [.ofEntity name] } := by
  simp [insertImport, Entity.insertImport, extend]

end Draft

end EntityMapping
