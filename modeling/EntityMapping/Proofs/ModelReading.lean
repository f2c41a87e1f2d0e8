/-
Module: EntityMapping.Proofs.ModelReading
Purpose: What interpreting the members of a model comes to, without the draft that it runs on: each
  member adds a part of its own, and the fields become, in order, one column or relation each.
Main exports: Column.withGenerator_eq, Schema.outcome, Draft.readField_eq, Draft.addField_eq,
  Draft.declareIndex_eq, Schema.memberPart, Draft.addModel_eq, Schema.outcomes,
  Schema.modelPart_columns, Schema.modelPart_relations, Schema.modelPart_imports
-/
import EntityMapping.Interpretation.Basic
import EntityMapping.Proofs.FieldFacts
import Mathlib.Data.List.Basic

namespace EntityMapping

open Schema (Argument Attribute Field Member Model)

/-! ### Fields -/

namespace FieldResult

/-- The column that a field became. -/
def column? : FieldResult → Option Column
  | .column c => some c
  | .relation _ => none

/-- The relation that a field became. -/
def relation? : FieldResult → Option Relation
  | .column _ => none
  | .relation r => some r

/-- The name of the field. -/
def fieldName : FieldResult → String
  | .column c => c.name
  | .relation r => r.fieldName

theorem map_name_column? (result : FieldResult) :
    result.column?.map Column.name =
      if !result.relation?.isSome then some result.fieldName else none := by
  cases result <;> rfl

theorem map_fieldName_relation? (result : FieldResult) :
    result.relation?.map Relation.fieldName =
      if result.relation?.isSome then some result.fieldName else none := by
  cases result <;> rfl

end FieldResult

namespace Column

variable (column : Column)

/-- Generation by the database changes how the values are stored and where they come from, and
nothing else. -/
theorem withGenerator_eq :
    ∃ dbType length default generated,
      column.withGenerator =
        { column with
          dbType := dbType, length := length, default := default, generated := generated } := by
  unfold withGenerator
  split
  · exact ⟨_, _, _, _, rfl⟩
  · split
    · exact ⟨_, _, _, _, rfl⟩
    · exact ⟨_, _, _, _, rfl⟩

@[simp] theorem name_withGenerator : column.withGenerator.name = column.name := by
  obtain ⟨_, _, _, _, changed⟩ := column.withGenerator_eq
  rw [changed]

@[simp] theorem valueType_withGenerator :
    column.withGenerator.valueType = column.valueType := by
  obtain ⟨_, _, _, _, changed⟩ := column.withGenerator_eq
  rw [changed]

@[simp] theorem enumType_withGenerator : column.withGenerator.enumType = column.enumType := by
  obtain ⟨_, _, _, _, changed⟩ := column.withGenerator_eq
  rw [changed]

end Column

/-- What is reported about the inverse of a field of the entity named `owner` that refers to the
model `related`. -/
def Schema.Field.inverseRemarks (owner : String) (related : Model) (field : Field) :
    List Diagnostic :=
  match related.backReferences owner with
  | [] =>
      [.ofField owner field.name .missingInverse
        (related.name ++ " has no field of type " ++ owner ++ "; inverse left empty")]
  | [_] => []
  | first :: _ =>
      [.ofField owner field.name .ambiguousInverse
        (related.name ++ " has several fields of type " ++ owner ++ "; using " ++ first.name ++
          " as the inverse")]

namespace Schema

variable (schema : Schema) (owner : String)

/-- The model that the type of a field refers to. -/
def target? (field : Field) : Option Model :=
  schema.model? (valueName field.type.innermost)

/-- What a field of the entity named `owner` becomes. -/
def outcome (field : Field) : FieldResult :=
  match schema.lookup (valueName field.type.innermost) with
  | some (.model related) =>
      .relation (field.relationTo owner related (field.facts.relation.getD {}))
  | some (.enumeration enumeration) =>
      .column (field.enumColumn field.facts enumeration.name).withGenerator
  | some .unknown | none => .column (field.plainColumn field.facts).withGenerator

/-- The files that a field needs. -/
def importsFor (field : Field) : List ImportedFile :=
  match schema.lookup (valueName field.type.innermost) with
  | some (.enumeration enumeration) => [.ofEntity enumeration.name]
  | _ => []

/-- What is reported about the inverse of a field of the entity named `owner`. -/
def inverseRemarks (field : Field) : List Diagnostic :=
  match schema.target? field with
  | some related => field.inverseRemarks owner related
  | none => []

/-- What a field adds to the entity named `owner`. -/
def fieldPart (field : Field) : Contribution :=
  field.annotations owner ++
    { columns := (schema.outcome owner field).column?.toList
      relations := (schema.outcome owner field).relation?.toList
      imports := schema.importsFor field
      diagnostics := schema.inverseRemarks owner field }

end Schema

namespace Draft

variable (schema : Schema) (draft : Draft)

theorem reportInverse_eq (field : Field) (related : Model) :
    draft.reportInverse field related =
      draft.extend { diagnostics := field.inverseRemarks draft.entity.name related } := by
  unfold reportInverse Field.inverseRemarks
  cases related.backReferences draft.entity.name with
  | nil => simp [reportField_eq, Diagnostic.ofField]
  | cons first rest => cases rest <;> simp [reportField_eq, Diagnostic.ofField]

/-- Reading a field gives its outcome and adds what its attributes and its type say. -/
theorem readField_eq (field : Field) :
    draft.readField schema field =
      (schema.outcome draft.entity.name field,
        draft.extend
          (field.annotations draft.entity.name ++
            { imports := schema.importsFor field
              diagnostics := schema.inverseRemarks draft.entity.name field })) := by
  unfold readField Schema.outcome Schema.importsFor Schema.inverseRemarks Schema.target?
    Schema.model?
  rw [readAttributes_eq]
  cases schema.lookup (valueName field.type.innermost) with
  | none => simp
  | some declaration =>
      cases declaration with
      | model related => simp [reportInverse_eq, extend_extend]
      | enumeration enumeration => simp [insertImport_eq, extend_extend]
      | unknown => simp

theorem append_eq (result : FieldResult) :
    draft.append result =
      draft.extend
        { columns := result.column?.toList, relations := result.relation?.toList } := by
  cases result <;> simp [append, extend, FieldResult.column?, FieldResult.relation?]

theorem addField_eq (field : Field) :
    draft.addField schema field = draft.extend (schema.fieldPart draft.entity.name field) := by
  unfold addField Schema.fieldPart
  rw [readField_eq]
  simp [append_eq, extend_extend]

end Draft

/-! ### Attributes of a model -/

namespace Schema.Attribute

/-- Whether an attribute of a model should declare an index. -/
def declaresIndex (attr : Attribute) : Bool :=
  attr.mentions "unique" || attr.mentions "fulltext" || attr.mentions "index"

/-- The columns of the index that an attribute of a model declares. -/
def indexColumns? (attr : Attribute) : Option (List String) :=
  match attr.args.head?.bind Argument.columns? with
  | some (column :: columns) => some (column :: columns)
  | _ => none

/-- The indices that an attribute of the model named `owner` adds. -/
def modelIndices (owner : String) (attr : Attribute) : List Index :=
  if attr.declaresIndex then
    attr.indexColumns?.toList.map fun columns =>
      .ofColumns owner columns (attr.mentions "unique") (attr.mentions "fulltext")
  else []

/-- What is reported about an attribute of the model named `owner`. -/
def modelRemarks (owner : String) (attr : Attribute) : List Diagnostic :=
  if attr.declaresIndex then
    match attr.indexColumns? with
    | some _ => []
    | none =>
        [⟨.malformedIndex, .entity owner,
          "@@" ++ attr.dottedName ++ " has no usable column list; ignored"⟩]
  else
    [⟨.unrecognizedBlockAttribute, .entity owner,
      "@@" ++ attr.dottedName ++ " is not an index; ignored"⟩]

end Schema.Attribute

theorem Draft.declareIndex_eq (draft : Draft) (attr : Attribute) :
    draft.declareIndex attr =
      draft.extend
        { indices := attr.modelIndices draft.entity.name
          diagnostics := attr.modelRemarks draft.entity.name } := by
  unfold declareIndex Attribute.modelIndices Attribute.modelRemarks Attribute.declaresIndex
    Attribute.indexColumns?
  dsimp only
  cases attr.mentions "unique" || attr.mentions "fulltext" || attr.mentions "index" with
  | false => simp [reportEntity_eq]
  | true =>
      cases attr.args.head?.bind Argument.columns? with
      | none => simp [reportEntity_eq]
      | some columns => cases columns <;> simp [reportEntity_eq, insertIndex_eq]

/-! ### Members and models -/

namespace Schema

variable (schema : Schema) (owner : String)

/-- What a member adds to the entity named `owner`. -/
def memberPart : Member → Contribution
  | .field f => schema.fieldPart owner f
  | .modelAttribute attr =>
      { indices := attr.modelIndices owner, diagnostics := attr.modelRemarks owner }
  | .other => {}

/-- What the members of a model add to the entity named `owner`. -/
def modelPart (model : Model) : Contribution :=
  .concat (model.members.map (schema.memberPart owner))

/-- What the fields of a model become in the entity named `owner`, in order. -/
def outcomes (model : Model) : List FieldResult :=
  model.fields.map (schema.outcome owner)

/-- What only the fields among the members add, in the order of the members, is what the fields add
in their order. -/
theorem Model.flatMap_members {α : Type} {ofMember : Member → List α} {ofField : Field → List α}
    (fieldsOnly : ∀ member, ofMember member = member.field?.toList.flatMap ofField)
    (model : Model) :
    model.members.flatMap ofMember = model.fields.flatMap ofField := by
  unfold Model.fields
  induction model.members with
  | nil => rfl
  | cons member rest ih =>
      rw [List.flatMap_cons, ih, fieldsOnly, List.filterMap_cons]
      cases member.field? <;> simp

theorem memberPart_columns (member : Member) :
    (schema.memberPart owner member).columns =
      member.field?.toList.flatMap fun f => (schema.outcome owner f).column?.toList := by
  cases member <;> simp [memberPart, fieldPart, Field.annotations, Member.field?]

theorem memberPart_relations (member : Member) :
    (schema.memberPart owner member).relations =
      member.field?.toList.flatMap fun f => (schema.outcome owner f).relation?.toList := by
  cases member <;> simp [memberPart, fieldPart, Field.annotations, Member.field?]

theorem memberPart_imports (member : Member) :
    (schema.memberPart owner member).imports =
      member.field?.toList.flatMap schema.importsFor := by
  cases member <;> simp [memberPart, fieldPart, Field.annotations, Member.field?]

theorem modelPart_columns (model : Model) :
    (schema.modelPart owner model).columns =
      (schema.outcomes owner model).filterMap FieldResult.column? := by
  rw [List.filterMap_eq_flatMap_toList, outcomes, List.flatMap_map,
    ← Model.flatMap_members (schema.memberPart_columns owner) model]
  exact List.flatMap_map _ _ _

theorem modelPart_relations (model : Model) :
    (schema.modelPart owner model).relations =
      (schema.outcomes owner model).filterMap FieldResult.relation? := by
  rw [List.filterMap_eq_flatMap_toList, outcomes, List.flatMap_map,
    ← Model.flatMap_members (schema.memberPart_relations owner) model]
  exact List.flatMap_map _ _ _

theorem modelPart_imports (model : Model) :
    (schema.modelPart owner model).imports = model.fields.flatMap schema.importsFor := by
  rw [← Model.flatMap_members (schema.memberPart_imports owner) model]
  exact List.flatMap_map _ _ _

end Schema

namespace Draft

variable (schema : Schema) (draft : Draft)

theorem addMember_eq (member : Member) :
    draft.addMember schema member =
      draft.extend (schema.memberPart draft.entity.name member) := by
  cases member with
  | field f => exact draft.addField_eq schema f
  | modelAttribute attr => exact draft.declareIndex_eq attr
  | other => exact draft.extend_empty.symm

/-- A model adds its part, whatever the draft holds. -/
theorem addModel_eq (model : Model) :
    draft.addModel schema model = draft.extend (schema.modelPart draft.entity.name model) :=
  foldl_extend draft (addMember_eq schema) model.members

end Draft

end EntityMapping
