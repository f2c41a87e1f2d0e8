/-
Module: EntityMapping.Proofs.RelationSymmetry
Purpose: Two models that refer to each other by one field each get relations that are each other's
  mirror image, wherever the models stand and whatever surrounds the two fields.
Main exports: Schema.Paired, Relation.Mirrors, Schema.relations_symmetric
-/
import EntityMapping.Proofs.RelationInference
import EntityMapping.Proofs.Remarks

namespace EntityMapping

open Schema (Declaration Field Member Model)

/-! ### Diagnostics about inverses -/

/-- The diagnostic says that a field has no inverse or several. -/
def Diagnostic.AboutInverse (diagnostic : Diagnostic) : Prop :=
  diagnostic.kind = .ambiguousInverse ∨ diagnostic.kind = .missingInverse

namespace Schema

variable {schema : Schema} {stamp : Stamp} {owner : String} {d : Diagnostic}

/-- What a member adds about inverses, it adds as a field. -/
theorem mem_inverseRemarks_of_mem_memberPart {member : Member}
    (listed : d ∈ (schema.memberPart owner member).diagnostics) (about : d.AboutInverse) :
    ∃ field, member = .field field ∧ d ∈ schema.inverseRemarks owner field := by
  cases member with
  | field f =>
      rcases List.mem_append.mp listed with annotated | inverse
      · obtain ⟨kind, message, rfl, sort⟩ := Field.mem_annotations annotated
        rcases sort with rfl | rfl <;> simp [Diagnostic.AboutInverse, Diagnostic.ofField] at about
      · exact ⟨f, rfl, inverse⟩
  | modelAttribute attr =>
      rcases (Attribute.mem_modelRemarks listed).2 with sort | sort <;>
        simp [Diagnostic.AboutInverse, sort] at about
  | other => simp [memberPart] at listed

/-- What an interpretation reports about inverses, it reports about a field of a model. -/
theorem mem_inverseRemarks_of_mem (listed : d ∈ (schema.interpret stamp).diagnostics)
    (about : d.AboutInverse) :
    ∃ owner model, schema.model? owner = some model ∧
      ∃ field ∈ model.fields, d ∈ schema.inverseRemarks owner field := by
  rw [interpret_diagnostics] at listed
  rcases List.mem_append.mp listed with unrecognized | reported
  · simp [Diagnostic.AboutInverse, (mem_unrecognized unrecognized).1] at about
  · obtain ⟨draft, _, remarked⟩ := List.mem_flatMap.mp reported
    obtain ⟨model, read, member, hmember, added⟩ := exists_member_of_mem_entityPart remarked
    obtain ⟨field, rfl, inverse⟩ := mem_inverseRemarks_of_mem_memberPart added about
    exact ⟨draft.name, model, read, field, List.mem_filterMap.mpr ⟨_, hmember, rfl⟩, inverse⟩

end Schema

/-! ### Mirror images -/

theorem Cardinality.dual_ofShapes (isList inverseIsList : Bool) :
    (ofShapes false isList inverseIsList).dual = ofShapes false inverseIsList isList := by
  cases isList <;> cases inverseIsList <;> rfl

/-- Two relations are the same relation seen from its two ends. -/
structure Relation.Mirrors (r s : Relation) : Prop where
  cardinality : s.cardinality = r.cardinality.dual
  /-- Both have a join table or neither has, and the two sides of it are exchanged. -/
  joinTable :
    Option.Rel
      (fun t u => t.joinColumns = u.inverseJoinColumns ∧ t.inverseJoinColumns = u.joinColumns)
      r.joinTable s.joinTable

/-- Fields that are each other's only inverse make mirrored relations. -/
theorem Schema.Field.relationTo_mirrors {left right : Model} {forward back : Field}
    (different : left.name ≠ right.name)
    (onlyForward : left.fields.filter (·.type.innermost == right.name) = [forward])
    (onlyBack : right.fields.filter (·.type.innermost == left.name) = [back])
    (clause clause' : RelationClause) :
    (forward.relationTo left.name right clause).Mirrors
      (back.relationTo right.name left clause') := by
  have abroad : (right.name == left.name) = false := by simpa using different.symm
  have abroad' : (left.name == right.name) = false := by simpa using different
  constructor
  · simp [relationTo, Model.backReferences, onlyForward, onlyBack, abroad, abroad',
      Cardinality.dual_ofShapes]
  · have both :
        Cardinality.ofShapes false forward.type.isList back.type.isList = .manyToMany ↔
          Cardinality.ofShapes false back.type.isList forward.type.isList = .manyToMany := by
      rw [Cardinality.ofShapes_eq_manyToMany, Cardinality.ofShapes_eq_manyToMany]
      tauto
    by_cases many :
        Cardinality.ofShapes false forward.type.isList back.type.isList = .manyToMany
    · simp [relationTo, Model.backReferences, onlyForward, onlyBack, abroad, abroad', many,
        both.mp many, JoinTable.linking]
    · simp [relationTo, Model.backReferences, onlyForward, onlyBack, abroad, abroad', many,
        mt both.mpr many]

namespace Schema

/-- The relations of the fields of a name are those of the fields of the model with that name. -/
theorem filter_fieldName_outcomes (schema : Schema) (owner name : String) (model : Model) :
    ((schema.outcomes owner model).filterMap FieldResult.relation?).filter (·.fieldName == name) =
      (model.fields.filter (·.name == name)).filterMap fun f =>
        (schema.outcome owner f).relation? := by
  rw [outcomes, List.filterMap_map, List.filter_filterMap, List.filterMap_filter]
  congr 1
  funext field
  rw [Function.comp_apply, relation?_outcome]
  cases schema.target? field with
  | none => simp
  | some related => by_cases named : field.name = name <;> simp [Field.relationTo, named]

/-- Two models of a schema without repeated names refer to each other by one field each. -/
structure Paired (schema : Schema) (left right : Model) (forward back : Field) : Prop where
  distinctNames : (schema.declarations.filterMap Declaration.name?).Nodup
  distinctFields :
    ∀ m, .model m ∈ schema.declarations → (m.fields.map Field.name).Nodup
  leftDeclared : .model left ∈ schema.declarations
  rightDeclared : .model right ∈ schema.declarations
  different : left.name ≠ right.name
  leftNotBuiltin : left.name ∉ BuiltinType.names
  rightNotBuiltin : right.name ∉ BuiltinType.names
  onlyForward : left.fields.filter (·.type.innermost == right.name) = [forward]
  onlyBack : right.fields.filter (·.type.innermost == left.name) = [back]

namespace Paired

variable {schema : Schema} {stamp : Stamp} {left right : Model} {forward back : Field}

theorem symm (paired : schema.Paired left right forward back) :
    schema.Paired right left back forward where
  distinctNames := paired.distinctNames
  distinctFields := paired.distinctFields
  leftDeclared := paired.rightDeclared
  rightDeclared := paired.leftDeclared
  different := paired.different.symm
  leftNotBuiltin := paired.rightNotBuiltin
  rightNotBuiltin := paired.leftNotBuiltin
  onlyForward := paired.onlyBack
  onlyBack := paired.onlyForward

theorem forward_mem (paired : schema.Paired left right forward back) :
    forward ∈ left.fields ∧ forward.type.innermost = right.name := by
  have listed : forward ∈ left.fields.filter (·.type.innermost == right.name) := by
    simp [paired.onlyForward]
  simpa using List.mem_filter.mp listed

theorem model?_left (paired : schema.Paired left right forward back) :
    schema.model? left.name = some left :=
  model?_eq_some_iff.mpr (lookup_of_nodup paired.distinctNames paired.leftDeclared rfl)

theorem target?_forward (paired : schema.Paired left right forward back) :
    schema.target? forward = some right := by
  unfold target?
  rw [paired.forward_mem.2, valueName_of_not_mem paired.rightNotBuiltin]
  exact paired.symm.model?_left

/-- The entity of one of the models has one relation for the field, to the other model. -/
theorem relation_forward (paired : schema.Paired left right forward back) (stamp : Stamp) :
    ∃ entity clause,
      (schema.interpret stamp).entities.filter (·.name == left.name) = [entity] ∧
        entity.relations.filter (·.fieldName == forward.name) =
          [forward.relationTo left.name right clause] := by
  obtain ⟨entity, listed, named, table⟩ :=
    schema.exists_table_of_mem stamp paired.leftDeclared
  have distinct : ((schema.interpret stamp).entities.map Entity.name).Nodup := by
    rw [map_name_entities]
    exact paired.distinctNames
  have read : schema.model? entity.name = some left := by
    rw [named]
    exact paired.model?_left
  refine ⟨entity, forward.facts.relation.getD {}, ?_, ?_⟩
  · rw [← named]
    exact filter_key_eq_singleton distinct listed
  · rw [relations_of_mem listed table read, filter_fieldName_outcomes,
      filter_key_eq_singleton (paired.distinctFields left paired.leftDeclared)
        paired.forward_mem.1, named]
    simp [relation?_outcome, paired.target?_forward]

theorem not_aboutInverse_forward (paired : schema.Paired left right forward back)
    {d : Diagnostic} (listed : d ∈ (schema.interpret stamp).diagnostics)
    (located : d.location = .field left.name forward.name) : ¬ d.AboutInverse := by
  intro about
  obtain ⟨owner, model, read, field, hfield, remarked⟩ :=
    mem_inverseRemarks_of_mem listed about
  have same := (mem_inverseRemarks remarked).1.symm.trans located
  injection same with sameOwner sameName
  subst sameOwner
  rw [paired.model?_left] at read
  cases read
  have sameField : field = forward :=
    List.inj_on_of_nodup_map (paired.distinctFields left paired.leftDeclared) hfield
      paired.forward_mem.1 sameName
  subst sameField
  simp [inverseRemarks, paired.target?_forward, Field.inverseRemarks, Model.backReferences,
    paired.onlyBack] at remarked

end Paired

/-- Two models that refer to each other by one field each get one relation each, which name each
other's table and field and are each other's mirror image. Nothing is reported about their
inverses. -/
theorem relations_symmetric {schema : Schema} {left right : Model} {forward back : Field}
    (paired : schema.Paired left right forward back) (stamp : Stamp) :
    ∃ leftEntity rightEntity r s,
      (schema.interpret stamp).entities.filter (·.name == left.name) = [leftEntity] ∧
      (schema.interpret stamp).entities.filter (·.name == right.name) = [rightEntity] ∧
      leftEntity.relations.filter (·.fieldName == forward.name) = [r] ∧
      rightEntity.relations.filter (·.fieldName == back.name) = [s] ∧
      r.relatedTable = right.name ∧ r.relatedField = back.name ∧
      s.relatedTable = left.name ∧ s.relatedField = forward.name ∧
      r.Mirrors s ∧
      ∀ d ∈ (schema.interpret stamp).diagnostics,
        d.location = .field left.name forward.name ∨ d.location = .field right.name back.name →
          d.kind ≠ .ambiguousInverse ∧ d.kind ≠ .missingInverse := by
  obtain ⟨leftEntity, clause, leftOnly, forwardOnly⟩ := paired.relation_forward stamp
  obtain ⟨rightEntity, clause', rightOnly, backOnly⟩ := paired.symm.relation_forward stamp
  refine ⟨leftEntity, rightEntity, _, _, leftOnly, rightOnly, forwardOnly, backOnly, rfl, ?_, rfl,
    ?_, ?_, ?_⟩
  · simp [Field.relationTo, Model.backReferences, paired.onlyBack]
  · simp [Field.relationTo, Model.backReferences, paired.onlyForward]
  · exact Field.relationTo_mirrors paired.different paired.onlyForward paired.onlyBack _ _
  · rintro d listed (located | located)
    · exact not_or.mp (paired.not_aboutInverse_forward listed located)
    · exact not_or.mp (paired.symm.not_aboutInverse_forward listed located)

/-- The authors and the books of a library refer to each other. -/
theorem paired_library : library.Paired author book books writers where
  distinctNames := by decide
  distinctFields := by
    intro m declared
    have which : m = author ∨ m = book := by simpa [library] using declared
    rcases which with rfl | rfl <;> decide
  leftDeclared := by simp [library]
  rightDeclared := by simp [library]
  different := by decide
  leftNotBuiltin := by decide
  rightNotBuiltin := by decide
  onlyForward := rfl
  onlyBack := rfl

theorem relations_symmetric_library :
    ∃ leftEntity rightEntity r s,
      (library.interpret {}).entities.filter (·.name == "Author") = [leftEntity] ∧
      (library.interpret {}).entities.filter (·.name == "Book") = [rightEntity] ∧
      leftEntity.relations.filter (·.fieldName == "books") = [r] ∧
      rightEntity.relations.filter (·.fieldName == "writers") = [s] ∧
      r.relatedTable = "Book" ∧ r.relatedField = "writers" ∧
      s.relatedTable = "Author" ∧ s.relatedField = "books" ∧
      r.Mirrors s ∧
      ∀ d ∈ (library.interpret {}).diagnostics,
        d.location = .field "Author" "books" ∨ d.location = .field "Book" "writers" →
          d.kind ≠ .ambiguousInverse ∧ d.kind ≠ .missingInverse :=
  relations_symmetric paired_library {}

end Schema

end EntityMapping
