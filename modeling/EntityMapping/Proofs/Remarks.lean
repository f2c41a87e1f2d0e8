/-
Module: EntityMapping.Proofs.Remarks
Purpose: Where diagnostics are located. All that the part of an entity reports lies within the
  entity, and so the diagnostics within an entity are those that the parts of its name report.
Main exports: Location.entityName?, Attribute.mem_remarks, Field.mem_annotations,
  Attribute.mem_modelRemarks, Schema.mem_inverseRemarks, Schema.mem_unrecognized,
  Schema.exists_member_of_mem_entityPart, Schema.filter_entityName?_diagnostics
-/
import EntityMapping.Proofs.Interpretation

namespace EntityMapping

open Schema (Attribute Field Member Model)

/-- The name of the entity that a place is, or whose field it is. -/
def Location.entityName? : Location → Option String
  | .declaration _ => none
  | .entity name => some name
  | .field owner _ => some owner

namespace Schema

variable {schema : Schema} {owner : String} {d : Diagnostic}

/-! ### What is reported where -/

/-- An attribute of a field is reported at the field, for a length that a storage type should have
or for a relation. -/
theorem Attribute.mem_remarks {attr : Attribute} {field : String}
    (listed : d ∈ attr.remarks owner field) :
    ∃ kind message, d = .ofField owner field kind message ∧
      (kind = .invalidLength ∧ "db" ∈ attr.path ∨
        kind = .unknownRelationArgument ∧ "relation" ∈ attr.path) := by
  rcases List.mem_append.mp listed with length | relation
  · obtain ⟨message, given, rfl⟩ := List.mem_map.mp length
    refine ⟨.invalidLength, message, rfl, Or.inl ⟨rfl, ?_⟩⟩
    by_contra unstored
    simp [lengthFault?, mt mentions_iff.mp unstored] at given
  · split at relation
    case isTrue related =>
      obtain ⟨message, _, rfl⟩ := List.mem_map.mp relation
      exact ⟨.unknownRelationArgument, message, rfl, Or.inr ⟨rfl, mentions_iff.mp related⟩⟩
    case isFalse => cases relation

/-- The attributes of a field are reported at the field, for a length or for a relation. -/
theorem Field.mem_annotations {field : Field}
    (listed : d ∈ (field.annotations owner).diagnostics) :
    ∃ kind message, d = .ofField owner field.name kind message ∧
      (kind = .invalidLength ∨ kind = .unknownRelationArgument) := by
  obtain ⟨attr, _, remarked⟩ := List.mem_flatMap.mp listed
  obtain ⟨kind, message, rfl, which⟩ := Attribute.mem_remarks remarked
  exact ⟨kind, message, rfl, which.imp And.left And.left⟩

/-- The attributes of a model are reported at its entity, for an index. -/
theorem Attribute.mem_modelRemarks {attr : Attribute} (listed : d ∈ attr.modelRemarks owner) :
    d.location = .entity owner ∧
      (d.kind = .malformedIndex ∨ d.kind = .unrecognizedBlockAttribute) := by
  unfold modelRemarks at listed
  split at listed
  · split at listed
    · simp at listed
    · rw [List.mem_singleton.mp listed]
      exact ⟨rfl, Or.inl rfl⟩
  · rw [List.mem_singleton.mp listed]
    exact ⟨rfl, Or.inr rfl⟩

/-- The inverse of a field is reported at the field: that there is none, or that there are
several. -/
theorem mem_inverseRemarks {field : Field} (listed : d ∈ schema.inverseRemarks owner field) :
    d.location = .field owner field.name ∧
      (d.kind = .missingInverse ∨ d.kind = .ambiguousInverse) := by
  unfold inverseRemarks at listed
  split at listed
  · unfold Field.inverseRemarks at listed
    split at listed
    · rw [List.mem_singleton.mp listed]
      exact ⟨rfl, Or.inl rfl⟩
    · simp at listed
    · rw [List.mem_singleton.mp listed]
      exact ⟨rfl, Or.inr rfl⟩
  · simp at listed

/-- Declarations of no known sort are reported at their position. -/
theorem mem_unrecognized (listed : d ∈ schema.unrecognized) :
    d.kind = .unrecognizedDeclaration ∧ ∃ position, d.location = .declaration position := by
  obtain ⟨reported, hreported, rfl⟩ := List.mem_filterMap.mp listed
  obtain ⟨position, _, same⟩ := List.mem_mapIdx.mp hreported
  cases declared : schema.declarations[position] with
  | unknown =>
      rw [declared] at same
      cases same
      exact ⟨rfl, position, rfl⟩
  | model m => rw [declared] at same; cases same
  | enumeration e => rw [declared] at same; cases same

/-! ### What is reported within an entity -/

theorem entityName?_of_mem_memberPart {member : Member}
    (listed : d ∈ (schema.memberPart owner member).diagnostics) :
    d.location.entityName? = some owner := by
  cases member with
  | field f =>
      rcases List.mem_append.mp listed with annotated | inverse
      · obtain ⟨kind, message, rfl, -⟩ := Field.mem_annotations annotated
        rfl
      · rw [(mem_inverseRemarks inverse).1]
        rfl
  | modelAttribute attr =>
      rw [(Attribute.mem_modelRemarks listed).1]
      rfl
  | other => simp [memberPart] at listed

/-- What the part of an entity reports, a member reports of the model that its name refers to. -/
theorem exists_member_of_mem_entityPart {entity : Entity}
    (listed : d ∈ (schema.entityPart entity).diagnostics) :
    ∃ model, schema.model? entity.name = some model ∧
      ∃ member ∈ model.members, d ∈ (schema.memberPart entity.name member).diagnostics := by
  cases table : entity.isEnum with
  | true =>
      rw [schema.entityPart_of_isEnum entity table] at listed
      exact absurd listed List.not_mem_nil
  | false =>
      cases read : schema.model? entity.name with
      | none =>
          rw [schema.entityPart_of_shadowed entity read] at listed
          exact absurd listed List.not_mem_nil
      | some model =>
          rw [schema.entityPart_of_model entity table read] at listed
          obtain ⟨part, hpart, remarked⟩ := List.mem_flatMap.mp listed
          obtain ⟨member, hmember, rfl⟩ := List.mem_map.mp hpart
          exact ⟨model, rfl, member, hmember, remarked⟩

/-- What the part of an entity reports lies within the entity. -/
theorem entityName?_of_mem_entityPart {entity : Entity}
    (listed : d ∈ (schema.entityPart entity).diagnostics) :
    d.location.entityName? = some entity.name := by
  obtain ⟨_, _, _, _, remarked⟩ := exists_member_of_mem_entityPart listed
  exact entityName?_of_mem_memberPart remarked

/-- The diagnostics within an entity are those that the parts of the drafts of its name report. -/
theorem filter_entityName?_diagnostics (schema : Schema) (stamp : Stamp) (name : String) :
    ((schema.interpret stamp).diagnostics.filter (·.location.entityName? == some name)) =
      ((schema.drafts stamp).filter (·.name == name)).flatMap fun draft =>
        (schema.entityPart draft).diagnostics := by
  have elsewhere : schema.unrecognized.filter (·.location.entityName? == some name) = [] := by
    rw [List.filter_eq_nil_iff]
    intro d listed
    obtain ⟨-, position, located⟩ := mem_unrecognized listed
    simp [located, Location.entityName?]
  rw [interpret_diagnostics, List.filter_append, elsewhere, List.nil_append]
  induction schema.drafts stamp with
  | nil => rfl
  | cons draft rest ih =>
      rw [List.flatMap_cons, List.filter_append, ih]
      by_cases named : draft.name = name
      · have all : (schema.entityPart draft).diagnostics.filter
            (·.location.entityName? == some name) = (schema.entityPart draft).diagnostics := by
          rw [List.filter_eq_self, ← named]
          intro d listed
          simp [entityName?_of_mem_entityPart listed]
        simp [named, all]
      · have none : (schema.entityPart draft).diagnostics.filter
            (·.location.entityName? == some name) = [] := by
          rw [List.filter_eq_nil_iff]
          intro d listed
          simpa [entityName?_of_mem_entityPart listed] using named
        simp [named, none]

end Schema

end EntityMapping
