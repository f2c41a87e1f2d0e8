/-
Module: EntityMapping.Proofs.DeclarationOrder
Purpose: The order of the declarations does not matter. Where names are not repeated, a name refers
  to the same declaration in every arrangement of a schema, and a name's reference is all that the
  interpretation reads of the rest of the schema. So the entities and what is reported within them
  stay the same, and only the order of the entities follows that of the declarations.
Main exports: Schema.lookup_perm, Schema.entityPart_congr, Schema.entity?_of_nodup,
  Schema.interpret_perm
-/
import EntityMapping.Proofs.Locality

namespace EntityMapping

/-- The second interpretation is the first one with its entities in the order of the given
declarations. -/
structure Interpretation.RearrangedBy (first second : Interpretation)
    (declarations : List Schema.Declaration) : Prop where
  /-- The entities are those that the declarations have in the first one, by name. -/
  entities :
    second.entities = declarations.filterMap fun d => d.name?.bind first.entity?
  sameEntities : first.entities.Perm second.entities
  /-- The same is reported, declarations of no known sort apart. -/
  sameReports :
    (first.diagnostics.filter (·.kind != .unrecognizedDeclaration)).Perm
      (second.diagnostics.filter (·.kind != .unrecognizedDeclaration))
  /-- What is reported within an entity is reported in the same order. -/
  sameWithin :
    ∀ name, first.diagnostics.filter (·.location.entityName? == some name) =
      second.diagnostics.filter (·.location.entityName? == some name)
  /-- As many declarations are of no known sort. -/
  sameUnrecognized :
    (Diagnostic.select .unrecognizedDeclaration first.diagnostics).length =
      (Diagnostic.select .unrecognizedDeclaration second.diagnostics).length

namespace Schema

variable {first second : Schema}

/-! ### What a name refers to -/

/-- Where names are not repeated, a name refers to the same declaration in every arrangement. -/
theorem lookup_perm (distinct : (first.declarations.filterMap Declaration.name?).Nodup)
    (permuted : first.declarations.Perm second.declarations) (name : String) :
    first.lookup name = second.lookup name := by
  have distinctToo : (second.declarations.filterMap Declaration.name?).Nodup :=
    (permuted.filterMap Declaration.name?).nodup_iff.mp distinct
  cases found : first.lookup name with
  | none =>
      symm
      rw [lookup_eq_none_iff] at found ⊢
      intro d declared
      exact found d (permuted.mem_iff.mpr declared)
  | some declaration =>
      have declared : declaration ∈ second.declarations :=
        permuted.mem_iff.mp (mem_of_lookup found)
      exact (lookup_of_nodup distinctToo declared (name?_of_lookup found)).symm

/-- Schemas in which a name refers to the same agree on it, whoever reads it. -/
theorem agreeOn_of_lookup {name : String} (same : first.lookup name = second.lookup name)
    (owner : String) : first.AgreeOn second owner name := by
  rcases first.lookup_cases name with ⟨m, found⟩ | ⟨e, found⟩ | found
  · exact .model (lookup_eq_some_iff.mp found) (lookup_eq_some_iff.mp (same ▸ found)) rfl
  · exact .enumeration (lookup_eq_some_iff.mp found) (lookup_eq_some_iff.mp (same ▸ found))
  · exact .undeclared (lookup_eq_none_iff.mp found) (lookup_eq_none_iff.mp (same ▸ found))

/-! ### What is interpreted -/

/-- Interpretation reads of a schema what names refer to, and nothing else. -/
theorem entityPart_congr (same : ∀ name, first.lookup name = second.lookup name)
    (entity : Entity) : first.entityPart entity = second.entityPart entity := by
  have sameModel : first.model? entity.name = second.model? entity.name := by
    unfold model?
    rw [same]
  unfold entityPart
  rw [sameModel]
  cases second.model? entity.name with
  | none => rfl
  | some model =>
      have samePart : first.modelPart entity.name model = second.modelPart entity.name model :=
        modelPart_congr fun field _ => agreeOn_of_lookup (same _) entity.name
      simp only [samePart]

theorem entityOf_congr (same : ∀ name, first.lookup name = second.lookup name) (stamp : Stamp) :
    first.entityOf stamp = second.entityOf stamp := by
  funext declaration
  unfold entityOf
  simp only [interpretEntity_eq, entityPart_congr same]

/-- Where names are not repeated, the entity of a declaration is the one of its name. -/
theorem entity?_of_nodup {schema : Schema} {stamp : Stamp} {declaration : Declaration}
    (distinct : (schema.declarations.filterMap Declaration.name?).Nodup)
    (declared : declaration ∈ schema.declarations) :
    (declaration.name?.bind (schema.interpret stamp).entity?) =
      schema.entityOf stamp declaration := by
  have named := schema.name_entityOf stamp declaration
  cases became : schema.entityOf stamp declaration with
  | none =>
      rw [became] at named
      rw [← named]
      rfl
  | some entity =>
      rw [became] at named
      rw [← named, Option.map_some, Option.bind_some]
      have listed : entity ∈ (schema.interpret stamp).entities := by
        rw [interpret_entities]
        exact List.mem_filterMap.mpr ⟨declaration, declared, became⟩
      have distinctNames : ((schema.interpret stamp).entities.map Entity.name).Nodup := by
        rw [map_name_entities]
        exact distinct
      rw [Interpretation.entity?, ← List.head?_filter,
        filter_key_eq_singleton distinctNames listed]
      rfl

/-! ### What is reported -/

/-- As many declarations are reported as are of no known sort. -/
theorem length_unrecognized (schema : Schema) :
    schema.unrecognized.length =
      schema.declarations.countP fun declaration => declaration.name?.isNone := by
  unfold unrecognized
  induction schema.declarations using List.reverseRecOn with
  | nil => rfl
  | append_singleton declarations last ih =>
      rw [List.mapIdx_append, List.filterMap_append, List.length_append, ih, List.countP_append]
      cases last <;> rfl

/-- Nothing that the part of an entity reports is about a declaration of no known sort. -/
theorem kind_ne_of_mem_entityPart {schema : Schema} {entity : Entity} {d : Diagnostic}
    (listed : d ∈ (schema.entityPart entity).diagnostics) : d.kind ≠ .unrecognizedDeclaration := by
  obtain ⟨model, _, member, _, reported⟩ := exists_member_of_mem_entityPart listed
  cases member with
  | field f =>
      rcases List.mem_append.mp reported with annotated | inverse
      · obtain ⟨kind, message, rfl, length | relation⟩ := Field.mem_annotations annotated
        · simp [Diagnostic.ofField, length]
        · simp [Diagnostic.ofField, relation]
      · rcases (mem_inverseRemarks inverse).2 with missing | ambiguous
        · simp [missing]
        · simp [ambiguous]
  | modelAttribute attr =>
      rcases (Attribute.mem_modelRemarks reported).2 with malformed | unrecognized
      · simp [malformed]
      · simp [unrecognized]
  | other => simp [memberPart] at reported

/-- The reports about declarations of no known sort come first, and all others are those of the
entities. -/
theorem filter_kind_diagnostics (schema : Schema) (stamp : Stamp) :
    Diagnostic.select .unrecognizedDeclaration (schema.interpret stamp).diagnostics =
        schema.unrecognized ∧
      (schema.interpret stamp).diagnostics.filter (·.kind != .unrecognizedDeclaration) =
        (schema.drafts stamp).flatMap fun draft => (schema.entityPart draft).diagnostics := by
  have ofDeclarations : ∀ d ∈ schema.unrecognized, d.kind = .unrecognizedDeclaration :=
    fun d listed => (mem_unrecognized listed).1
  have ofEntities : ∀ d ∈ (schema.drafts stamp).flatMap fun draft =>
      (schema.entityPart draft).diagnostics, d.kind ≠ .unrecognizedDeclaration := by
    intro d listed
    obtain ⟨draft, _, reported⟩ := List.mem_flatMap.mp listed
    exact kind_ne_of_mem_entityPart reported
  rw [Diagnostic.select, interpret_diagnostics, List.filter_append, List.filter_append]
  constructor
  · rw [List.filter_eq_self.mpr (by simpa using ofDeclarations),
      List.filter_eq_nil_iff.mpr (by simpa using ofEntities), List.append_nil]
  · rw [List.filter_eq_nil_iff.mpr (by simpa using ofDeclarations),
      List.filter_eq_self.mpr (by simpa using ofEntities), List.nil_append]

/-! ### The whole interpretation -/

/-- Where names are not repeated, two arrangements of the same declarations give the same entities,
each in the order of the declarations, and the same diagnostics. -/
theorem interpret_perm {first second : Schema}
    (distinct : (first.declarations.filterMap Declaration.name?).Nodup)
    (permuted : first.declarations.Perm second.declarations) (stamp : Stamp) :
    (first.interpret stamp).RearrangedBy (second.interpret stamp) second.declarations := by
  have same : ∀ name, first.lookup name = second.lookup name := lookup_perm distinct permuted
  have sameEntity : first.entityOf stamp = second.entityOf stamp := entityOf_congr same stamp
  have samePart : first.entityPart = second.entityPart := funext (entityPart_congr same)
  have drafts : (first.drafts stamp).Perm (second.drafts stamp) := permuted.filterMap _
  obtain ⟨unrecognized, recognized⟩ := first.filter_kind_diagnostics stamp
  obtain ⟨unrecognized', recognized'⟩ := second.filter_kind_diagnostics stamp
  constructor
  case entities =>
    rw [interpret_entities, ← sameEntity]
    apply List.filterMap_congr
    intro declaration declared
    exact (entity?_of_nodup distinct (permuted.mem_iff.mpr declared)).symm
  case sameEntities =>
    rw [interpret_entities, interpret_entities, ← sameEntity]
    exact permuted.filterMap _
  case sameReports =>
    rw [recognized, recognized', ← samePart]
    exact drafts.flatMap_right _
  case sameWithin =>
    intro name
    rw [filter_entityName?_diagnostics, filter_entityName?_diagnostics, ← samePart]
    have distinctDrafts : ((first.drafts stamp).map Entity.name).Nodup := by
      rw [map_name_drafts]
      exact distinct
    rw [filter_key_perm distinctDrafts drafts]
  case sameUnrecognized =>
    rw [unrecognized, unrecognized', length_unrecognized, length_unrecognized]
    exact permuted.countP_eq _

/-! ### A journal in two arrangements -/

/-- Articles that refer to all that is declared after them, and labels that lead back to them. -/
def journal : Schema where
  declarations :=
    [.model ⟨"Article",
        [.field ⟨"labels", .list (.named "Label"), []⟩,
          .field ⟨"state", .named "State", [⟨["default"], [.positional (.path ["draft"])]⟩]⟩,
          .field ⟨"author", .named "Person", [⟨["unique"], []⟩]⟩]⟩,
      .unknown, .enumeration ⟨"State", [.value "DRAFT"]⟩,
      .model ⟨"Label", [.field ⟨"articles", .list (.named "Article"), []⟩]⟩,
      .model ⟨"Person", [.modelAttribute ⟨["index"], []⟩]⟩]

theorem interpret_perm_journal :
    (journal.declarations.filterMap Declaration.name?).Nodup ∧
      journal.declarations.Perm journal.declarations.reverse ∧
      (journal.interpret {}).RearrangedBy
        (Schema.interpret ⟨journal.declarations.reverse⟩ {}) journal.declarations.reverse := by
  have distinct : (journal.declarations.filterMap Declaration.name?).Nodup := by decide
  have permuted : journal.declarations.Perm journal.declarations.reverse :=
    (List.reverse_perm journal.declarations).symm
  exact ⟨distinct, permuted, interpret_perm distinct permuted {}⟩

end Schema

end EntityMapping
