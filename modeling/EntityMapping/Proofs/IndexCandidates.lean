/-
Module: EntityMapping.Proofs.IndexCandidates
Purpose: All indices of a table, in order. Each member of its model has candidates: a field one for
  every attribute that makes it unique, whatever the field becomes, and an attribute of the model
  the one that it declares. The table has the first candidate of each name, in the order of the
  members. The names of unique fields are taken by no other index, so that each such field has its
  own.
Main exports: Member.Candidates, Schema.candidates_memberPart, Entity.IndexedBy,
  Schema.indices_indexedBy
-/
import EntityMapping.Proofs.IndexDeclarations

namespace EntityMapping

open Schema (Attribute Field Member Model)

/-- The candidates of a member for the indices of the entity named `owner`, in order. -/
inductive Schema.Member.Candidates (owner : String) : Member → List Index → Prop where
  /-- A field has one over itself for each attribute that makes it unique. -/
  | field (f : Field) :
      Candidates owner (.field f)
        ((f.attributes.filter fun attr => "unique" ∈ attr.path).map fun _ =>
          { name := owner ++ "_" ++ f.name ++ "_key"
            columns := [f.name]
            unique := true
            fulltext := false })
  | declared {attr : Attribute} {columns : List String}
      (declares : attr.DeclaresIndexOn columns) :
      Candidates owner (.modelAttribute attr)
        [{ name := owner ++ "_" ++ "_".intercalate columns ++ "_idx"
           columns := columns
           unique := "unique" ∈ attr.path
           fulltext := "fulltext" ∈ attr.path }]
  | undeclared {attr : Attribute} (silent : ∀ columns, ¬ attr.DeclaresIndexOn columns) :
      Candidates owner (.modelAttribute attr) []
  | other : Candidates owner .other []

/-- The table has the indices that the members of its model lead to. -/
structure Entity.IndexedBy (entity : Entity) (model : Model) : Prop where
  /-- They are the first candidate of each name, in the order of the members. -/
  firsts : ∃ candidates,
    List.Forall₂ (Member.Candidates entity.name) model.members candidates ∧
      ∀ indices, FirstOfEach Index.name candidates.flatten indices ↔ indices = entity.indices
  distinct : (entity.indices.map Index.name).Nodup
  /-- The index under the name of a unique field is that of the field. -/
  unique : ∀ field ∈ model.fields, (∃ attr ∈ field.attributes, "unique" ∈ attr.path) →
    entity.index? (entity.name ++ "_" ++ field.name ++ "_key") =
      some
        { name := entity.name ++ "_" ++ field.name ++ "_key"
          columns := [field.name]
          unique := true
          fulltext := false }

namespace Schema

/-! ### The candidates of a member -/

section Candidates

variable {owner : String}

theorem Field.flatMap_keyIndices (f : Field) :
    f.attributes.flatMap (Attribute.keyIndices owner f.name) =
      (f.attributes.filter fun attr => "unique" ∈ attr.path).map fun _ =>
        .ofUniqueField owner f.name := by
  induction f.attributes with
  | nil => rfl
  | cons attr rest ih =>
      rw [List.flatMap_cons, ih, List.filter_cons, Attribute.keyIndices, Attribute.mentions_eq]
      split <;> rfl

theorem Attribute.candidates_modelIndices (attr : Attribute) :
    Member.Candidates owner (.modelAttribute attr) (attr.modelIndices owner) := by
  by_cases declared : ∃ columns, attr.DeclaresIndexOn columns
  · obtain ⟨columns, declares⟩ := declared
    obtain ⟨declaring, listed⟩ := declaresIndexOn_iff.mp declares
    have indices : attr.modelIndices owner = [attr.indexOn owner columns] := by
      simp [modelIndices, indexOn, declaring, listed]
    rw [indices, indexOn, Attribute.mentions_eq, Attribute.mentions_eq]
    exact Member.Candidates.declared declares
  · have silent : ∀ columns, ¬ attr.DeclaresIndexOn columns := not_exists.mp declared
    have indices : attr.modelIndices owner = [] := by
      apply List.eq_nil_iff_forall_not_mem.mpr
      intro index offered
      obtain ⟨columns, declares, -⟩ := mem_modelIndices_iff.mp offered
      exact silent columns declares
    rw [indices]
    exact Member.Candidates.undeclared silent

/-- A member adds its candidates. -/
theorem candidates_memberPart (schema : Schema) (member : Member) :
    member.Candidates owner (schema.memberPart owner member).indices := by
  cases member with
  | field f =>
      have indices : (schema.memberPart owner (.field f)).indices =
          (f.attributes.filter fun attr => "unique" ∈ attr.path).map fun _ =>
            .ofUniqueField owner f.name := by
        rw [← Field.flatMap_keyIndices]
        simp [memberPart, fieldPart, Field.annotations]
      rw [indices]
      exact Member.Candidates.field f
  | modelAttribute attr => exact attr.candidates_modelIndices
  | other => exact Member.Candidates.other

end Candidates

/-! ### The indices of a table -/

section Table

variable {schema : Schema} {stamp : Stamp} {entity : Entity} {model : Model}
  (listed : entity ∈ (schema.interpret stamp).entities) (table : entity.isEnum = false)
  (read : schema.model? entity.name = some model)

include listed table read

theorem exists_candidates :
    ∃ candidates, List.Forall₂ (Member.Candidates entity.name) model.members candidates ∧
      FirstOfEach Index.name candidates.flatten entity.indices := by
  refine ⟨model.members.map fun member => (schema.memberPart entity.name member).indices, ?_, ?_⟩
  · rw [List.forall₂_map_right_iff, List.forall₂_same]
    intro member _
    exact candidates_memberPart schema member
  · rw [← List.flatMap_def, indices_of_mem listed table read]
    exact firstOfEach_appendEachNew _

/-- The index that is found under the name of an index is that index. -/
theorem index?_of_mem {index : Index} (kept : index ∈ entity.indices) :
    entity.index? index.name = some index := by
  rw [Entity.index?, ← List.head?_filter, filter_name_indices listed table read kept]
  rfl

/-- The indices of a table are the first candidate of each name, and each unique field has its
own. -/
theorem indices_indexedBy : entity.IndexedBy model := by
  obtain ⟨candidates, offered, first⟩ := exists_candidates listed table read
  constructor
  · refine ⟨candidates, offered, ?_⟩
    intro indices
    constructor
    · intro firstToo
      exact first.unique firstToo
    · rintro rfl
      exact first
  · exact nodup_name_indices listed table read
  · intro field declared unique
    exact index?_of_mem listed table read (ofUniqueField_mem listed table read declared unique)

end Table

/-! ### Visits -/

/-- A schema with a model that offers indices twice under one name: by a field that is unique twice,
and by two attributes whose columns have the same joined names. -/
def visits : Schema where
  declarations :=
    [.model ⟨"Visit",
      [.field ⟨"token", .named "String", [⟨["unique"], []⟩, ⟨["unique"], []⟩]⟩,
        .modelAttribute ⟨["index"], [.positional (.array [.path ["user_id"]])]⟩,
        .field ⟨"next", .optional (.named "Visit"), [⟨["unique"], []⟩]⟩,
        .modelAttribute ⟨["unique"], [.positional (.array [.path ["user"], .path ["id"]])]⟩,
        .modelAttribute ⟨["fulltext"], [.named "fields" (.array [.call ["token"] []])]⟩,
        .modelAttribute ⟨["index"], [.positional (.array [])]⟩]⟩]

/-- The table of `visits`. -/
def visitTable : Entity :=
  (visits.interpretEntity (.model "Visit" {})).entity

theorem indices_indexedBy_visitTable :
    visitTable ∈ (visits.interpret {}).entities ∧ visitTable.isEnum = false ∧
      ∃ model, visits.model? visitTable.name = some model ∧ visitTable.IndexedBy model := by
  have listed : visitTable ∈ (visits.interpret {}).entities := List.mem_cons_self
  exact ⟨listed, rfl, _, rfl, indices_indexedBy listed rfl rfl⟩

example :
    visitTable.indices =
      [{ name := "Visit_token_key", columns := ["token"], unique := true, fulltext := false },
        { name := "Visit_user_id_idx", columns := ["user_id"], unique := false
          fulltext := false },
        { name := "Visit_next_key", columns := ["next"], unique := true, fulltext := false },
        { name := "Visit_token_idx", columns := ["token"], unique := false
          fulltext := true }] := by
  decide +kernel

end Schema

end EntityMapping
