/-
Module: EntityMapping.Proofs.Locality
Purpose: What the interpretation of a model reads of the rest of the schema: for the type of each
  of its fields, whether the name refers to a model, to an enumeration or to nothing, and of a model
  the names and shapes of the fields that lead back. Two schemas that agree on this give the model
  the same entity and the same diagnostics, whatever else they declare.
Main exports: Model.backShapes, Schema.AgreeOn, Schema.DeclaresOnce, Schema.fieldPart_congr,
  Schema.modelPart_congr, Schema.interpret_local
-/
import EntityMapping.Proofs.Remarks
import EntityMapping.Proofs.Selection

namespace EntityMapping

open Schema (Declaration Enumeration Field Member Model)

/-! ### What is read of another declaration -/

/-- The names of the fields of a model that lead back to `owner`, in order, and whether each is a
list. -/
def Schema.Model.backShapes (owner : String) (related : Model) : List (String × Bool) :=
  (related.fields.filter (·.type.innermost == owner)).map fun f => (f.name, f.type.isList)

/-- Two schemas say the same about a name, as far as the model `owner` reads it. -/
inductive Schema.AgreeOn (first second : Schema) (owner name : String) : Prop where
  | undeclared (inFirst : ∀ d ∈ first.declarations, d.name? ≠ some name)
      (inSecond : ∀ d ∈ second.declarations, d.name? ≠ some name) : AgreeOn first second owner name
  | enumeration {e e' : Enumeration} (inFirst : first.LastNamed name (.enumeration e))
      (inSecond : second.LastNamed name (.enumeration e')) : AgreeOn first second owner name
  | model {m m' : Model} (inFirst : first.LastNamed name (.model m))
      (inSecond : second.LastNamed name (.model m'))
      (sameShapes : m.backShapes owner = m'.backShapes owner) : AgreeOn first second owner name

/-- The model is the only declaration of its name. -/
def Schema.DeclaresOnce (schema : Schema) (m : Model) : Prop :=
  schema.declarations.filter (fun d => d.name? == some m.name) = [.model m]

/-! ### One field -/

section Field

variable {owner : String} {related related' : Model} (named : related.name = related'.name)
  (sameShapes : related.backShapes owner = related'.backShapes owner)

include named sameShapes

theorem Schema.Field.relationTo_congr (clause : RelationClause) (field : Field) :
    field.relationTo owner related clause = field.relationTo owner related' clause := by
  have inverseName (m : Model) :
      (m.backReferences owner).head?.map (·.name) = (m.backShapes owner).head?.map Prod.fst := by
    unfold Model.backShapes Model.backReferences
    rw [List.head?_map, Option.map_map]
    rfl
  have inverseList (m : Model) :
      ((m.backReferences owner).head?.any (·.type.isList)) =
        (m.backShapes owner).head?.any Prod.snd := by
    unfold Model.backShapes Model.backReferences
    rw [List.head?_map, Option.any_map]
  unfold relationTo
  simp only [inverseName, inverseList, named, sameShapes]

theorem Schema.Field.inverseRemarks_congr (field : Field) :
    field.inverseRemarks owner related = field.inverseRemarks owner related' := by
  unfold Model.backShapes at sameShapes
  unfold inverseRemarks Model.backReferences
  rw [named]
  generalize related.fields.filter (·.type.innermost == owner) = back at sameShapes
  generalize related'.fields.filter (·.type.innermost == owner) = back' at sameShapes
  cases back' with
  | nil => rw [List.map_eq_nil_iff.mp sameShapes]
  | cons f' rest' =>
      obtain ⟨f, rest, rfl, sameFirst, sameRest⟩ := List.map_eq_cons_iff.mp sameShapes
      cases rest' with
      | nil => rw [List.map_eq_nil_iff.mp sameRest]
      | cons g' others' =>
          obtain ⟨g, others, rfl, -, -⟩ := List.map_eq_cons_iff.mp sameRest
          simp only [(Prod.mk.inj sameFirst).1]

end Field

namespace Schema

variable {first second : Schema} {owner : String}

/-- A field adds the same in two schemas that agree on the name of its type. -/
theorem fieldPart_congr {field : Field}
    (agree : first.AgreeOn second owner (valueName field.type.innermost)) :
    first.fieldPart owner field = second.fieldPart owner field := by
  cases agree with
  | undeclared inFirst inSecond =>
      have found := lookup_eq_none_iff.mpr inFirst
      have found' := lookup_eq_none_iff.mpr inSecond
      simp only [fieldPart, outcome, importsFor, inverseRemarks, target?, model?, found, found']
  | @enumeration e e' inFirst inSecond =>
      have found := lookup_eq_some_iff.mpr inFirst
      have found' := lookup_eq_some_iff.mpr inSecond
      have named : e.name = e'.name :=
        Option.some.inj (inFirst.1.trans inSecond.1.symm)
      simp only [fieldPart, outcome, importsFor, inverseRemarks, target?, model?, found, found',
        named]
  | @model m m' inFirst inSecond sameShapes =>
      have found := lookup_eq_some_iff.mpr inFirst
      have found' := lookup_eq_some_iff.mpr inSecond
      have named : m.name = m'.name :=
        Option.some.inj (inFirst.1.trans inSecond.1.symm)
      simp only [fieldPart, outcome, importsFor, inverseRemarks, target?, model?, found, found',
        Field.relationTo_congr named sameShapes, Field.inverseRemarks_congr named sameShapes]

/-- A model adds the same in two schemas that agree on the names of the types of its fields. -/
theorem modelPart_congr {model : Model}
    (agree : ∀ field ∈ model.fields,
      first.AgreeOn second owner (valueName field.type.innermost)) :
    first.modelPart owner model = second.modelPart owner model := by
  unfold modelPart
  congr 1
  apply List.map_congr_left
  intro member hmember
  cases member with
  | field f => exact fieldPart_congr (agree f (List.mem_filterMap.mpr ⟨_, hmember, rfl⟩))
  | modelAttribute attr => rfl
  | other => rfl

/-! ### A model that is declared once -/

section Once

variable {schema : Schema} {m : Model} (once : schema.DeclaresOnce m) (stamp : Stamp)

include once

theorem DeclaresOnce.model? : schema.model? m.name = some m := by
  rw [model?_eq_some_iff, lookup_eq_getLast?, once]
  rfl

/-- The only draft of its name is that of the model. -/
theorem DeclaresOnce.filter_drafts :
    (schema.drafts stamp).filter (·.name == m.name) = [.model m.name stamp] := by
  rw [drafts, filter_key_filterMap (name_draft? stamp), once]
  rfl

/-- The only entity of its name takes the part of the model. -/
theorem DeclaresOnce.filter_entities :
    (schema.interpret stamp).entities.filter (·.name == m.name) =
      [(Draft.extend { entity := .model m.name stamp, diagnostics := [] }
        (schema.modelPart m.name m)).entity] := by
  rw [interpret_entities, filter_key_filterMap (schema.name_entityOf stamp), once,
    List.filterMap_cons_some (schema.entityOf_model stamp m),
    schema.entityPart_of_model (.model m.name stamp) rfl once.model?]
  rfl

/-- The diagnostics within its entity are those of the part of the model. -/
theorem DeclaresOnce.filter_diagnostics :
    (schema.interpret stamp).diagnostics.filter (·.location.entityName? == some m.name) =
      (schema.modelPart m.name m).diagnostics := by
  rw [filter_entityName?_diagnostics, once.filter_drafts stamp, List.flatMap_singleton,
    schema.entityPart_of_model (.model m.name stamp) rfl once.model?]
  rfl

end Once

/-- A model that two schemas declare once has the same entity and the same diagnostics in both, if
they agree on the names of the types of its fields. -/
theorem interpret_local {m : Model} (inFirst : first.DeclaresOnce m)
    (inSecond : second.DeclaresOnce m)
    (agree : ∀ field ∈ m.fields, first.AgreeOn second m.name (valueName field.type.innermost))
    (stamp : Stamp) :
    (∃ entity,
      (first.interpret stamp).entities.filter (·.name == m.name) = [entity] ∧
      (second.interpret stamp).entities.filter (·.name == m.name) = [entity]) ∧
    (first.interpret stamp).diagnostics.filter (·.location.entityName? == some m.name) =
      (second.interpret stamp).diagnostics.filter (·.location.entityName? == some m.name) := by
  have samePart : first.modelPart m.name m = second.modelPart m.name m := modelPart_congr agree
  refine ⟨⟨_, inFirst.filter_entities stamp, ?_⟩, ?_⟩
  · rw [samePart]
    exact inSecond.filter_entities stamp
  · rw [inFirst.filter_diagnostics, inSecond.filter_diagnostics, samePart]

/-! ### A model in two schemas -/

/-- An item of a stock: a text, a state and the shelf where it lies. -/
def item : Model :=
  ⟨"Item", [.field ⟨"label", .named "String", []⟩, .field ⟨"state", .named "State", []⟩,
    .field ⟨"shelf", .named "Shelf", []⟩]⟩

/-- A schema with items. -/
def stock : Schema where
  declarations :=
    [.enumeration ⟨"State", [.value "NEW"]⟩, .model item,
      .model ⟨"Shelf", [.field ⟨"items", .list (.named "Item"), []⟩]⟩]

/-- Another schema with the same items, in which all else is declared in another order and with
other members. -/
def restocked : Schema where
  declarations :=
    [.unknown,
      .model ⟨"Shelf", [.other, .field ⟨"room", .named "Room", []⟩,
        .field ⟨"items", .list (.named "Item"), [⟨["unique"], []⟩]⟩]⟩,
      .enumeration ⟨"State", [.value "OLD", .other]⟩, .model ⟨"Room", []⟩, .model item]

theorem agreeOn_item (field : Field) (listed : field ∈ item.fields) :
    stock.AgreeOn restocked "Item" (valueName field.type.innermost) := by
  have which : field = ⟨"label", .named "String", []⟩ ∨ field = ⟨"state", .named "State", []⟩ ∨
      field = ⟨"shelf", .named "Shelf", []⟩ := by
    simpa [item, Model.fields, Member.field?] using listed
  rcases which with rfl | rfl | rfl
  · exact .undeclared (lookup_eq_none_iff.mp rfl) (lookup_eq_none_iff.mp rfl)
  · exact .enumeration (lookup_eq_some_iff.mp rfl) (lookup_eq_some_iff.mp rfl)
  · exact .model (lookup_eq_some_iff.mp rfl) (lookup_eq_some_iff.mp rfl) rfl

theorem interpret_local_item :
    stock.DeclaresOnce item ∧ restocked.DeclaresOnce item ∧
      (∃ entity,
        (stock.interpret {}).entities.filter (·.name == "Item") = [entity] ∧
        (restocked.interpret {}).entities.filter (·.name == "Item") = [entity]) ∧
      (stock.interpret {}).diagnostics.filter (·.location.entityName? == some "Item") =
        (restocked.interpret {}).diagnostics.filter (·.location.entityName? == some "Item") := by
  have inStock : stock.DeclaresOnce item := rfl
  have inRestocked : restocked.DeclaresOnce item := rfl
  exact ⟨inStock, inRestocked, interpret_local inStock inRestocked agreeOn_item {}⟩

end Schema

end EntityMapping
