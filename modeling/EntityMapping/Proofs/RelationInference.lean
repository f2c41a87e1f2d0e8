/-
Module: EntityMapping.Proofs.RelationInference
Purpose: The relations of an interpreted schema are the ones that the shapes of two fields make: the
  field that refers to another model, and the first field of that model that leads back.
Main exports: Cardinality.Tabulated, Model.firstLeadingBack, Relation.InferredFrom,
  Schema.relations_inferred
-/
import EntityMapping.Proofs.Interpretation

namespace EntityMapping

open Schema (Field Model)

/-! ### Cardinalities -/

/-- The table of cardinalities: from whether a relation leads back to its own entity, whether its
field is a list, and whether the field that leads back is one. -/
inductive Cardinality.Tabulated : Bool → Bool → Bool → Cardinality → Prop where
  | selfList (inverse : Bool) : Tabulated true true inverse .oneToMany
  | selfSingle (inverse : Bool) : Tabulated true false inverse .manyToOne
  | listToSingle : Tabulated false true false .oneToMany
  | listToList : Tabulated false true true .manyToMany
  | singleToList : Tabulated false false true .manyToOne
  | singleToSingle : Tabulated false false false .oneToOne

namespace Cardinality

variable {selfReference isList inverseIsList : Bool} {cardinality : Cardinality}

/-- The cardinality of two shapes is the one that the table gives, and the table gives no other. -/
theorem tabulated_iff :
    Tabulated selfReference isList inverseIsList cardinality ↔
      ofShapes selfReference isList inverseIsList = cardinality := by
  constructor
  · intro tabulated
    cases tabulated <;> rfl
  · rintro rfl
    cases selfReference <;> cases isList <;> cases inverseIsList <;> constructor

/-- Only two lists that lead to each other, between different entities, make many of both. -/
theorem ofShapes_eq_manyToMany :
    ofShapes selfReference isList inverseIsList = .manyToMany ↔
      selfReference = false ∧ isList = true ∧ inverseIsList = true := by
  cases selfReference <;> cases isList <;> cases inverseIsList <;> simp [ofShapes]

end Cardinality

/-! ### One relation -/

/-- The first field of a model, in the order of the schema, whose innermost type is `owner`. -/
def Schema.Model.firstLeadingBack (owner : String) (related : Model) : Option Field :=
  related.fields.find? (·.type.innermost == owner)

theorem Schema.Model.head?_backReferences (owner : String) (related : Model) :
    (related.backReferences owner).head? = related.firstLeadingBack owner :=
  List.head?_filter

/-- The relation is the one that a field of the entity named `owner` makes with the model `related`
that it refers to. -/
structure Relation.InferredFrom (owner : String) (field : Field) (related : Model)
    (relation : Relation) : Prop where
  fieldName : relation.fieldName = field.name
  relatedTable : relation.relatedTable = related.name
  /-- The inverse is the first field that leads back, if there is one. -/
  relatedField :
    relation.relatedField = ((related.firstLeadingBack owner).map Field.name).getD ""
  cardinality :
    Cardinality.Tabulated (related.name == owner) field.type.isList
      ((related.firstLeadingBack owner).any (·.type.isList)) relation.cardinality
  /-- There is a join table between many and many, and no other one. -/
  joinTable :
    relation.joinTable =
      if relation.cardinality = .manyToMany then
        some
          { name := owner ++ "_" ++ related.name
            joinColumns := [{ name := owner ++ "_id", referenced := "id" }]
            inverseJoinColumns := [{ name := related.name ++ "_id", referenced := "id" }] }
      else none
  /-- A relation that leads back to its own entity, or from which no field leads back, has no join
  table. -/
  noJoinTable :
    related.name = owner ∨ related.firstLeadingBack owner = none → relation.joinTable = none

theorem Schema.Field.relationTo_inferred (owner : String) (related : Model)
    (clause : RelationClause) (field : Field) :
    (field.relationTo owner related clause).InferredFrom owner field related := by
  unfold relationTo
  rw [Model.head?_backReferences]
  refine ⟨rfl, rfl, rfl, Cardinality.tabulated_iff.mpr rfl, rfl, ?_⟩
  rintro (leadsHome | lonely)
  · refine if_neg ?_
    rw [Cardinality.ofShapes_eq_manyToMany]
    simp [leadsHome]
  · refine if_neg ?_
    rw [Cardinality.ofShapes_eq_manyToMany]
    simp [lonely]

/-! ### All relations of an entity -/

namespace Schema

variable {schema : Schema} {stamp : Stamp} {entity : Entity} {model : Model}

/-- The relations of an interpreted table are, in order, inferred from the fields of its model whose
value type refers to a model. -/
theorem relations_inferred (listed : entity ∈ (schema.interpret stamp).entities)
    (table : entity.isEnum = false) (read : schema.model? entity.name = some model) :
    List.Forall₂
      (fun field relation =>
        ∃ related, schema.model? (valueName field.type.innermost) = some related ∧
          relation.InferredFrom entity.name field related)
      (model.fields.filter fun field =>
        (schema.model? (valueName field.type.innermost)).isSome)
      entity.relations := by
  apply forall₂_relations_of_mem listed table read
  intro field related target
  exact ⟨related, target, field.relationTo_inferred entity.name related _⟩

/-! ### A library -/

def books : Field := ⟨"books", .list (.named "Book"), []⟩

def writers : Field := ⟨"writers", .list (.named "Author"), []⟩

def author : Model :=
  ⟨"Author", [.other, .field books, .field ⟨"mentor", .optional (.named "Author"), []⟩]⟩

def book : Model := ⟨"Book", [.field ⟨"title", .named "String", []⟩, .field writers]⟩

/-- Authors and the books that they wrote together. -/
def library : Schema := ⟨[.model author, .unknown, .model book]⟩

/-- The table of the authors in the library. -/
def libraryAuthors : Entity :=
  (library.interpretEntity (.model "Author" {})).entity

theorem relations_inferred_libraryAuthors :
    libraryAuthors ∈ (library.interpret {}).entities ∧ libraryAuthors.isEnum = false ∧
      library.model? libraryAuthors.name = some author ∧
      List.Forall₂
        (fun field relation =>
          ∃ related, library.model? (valueName field.type.innermost) = some related ∧
            relation.InferredFrom libraryAuthors.name field related)
        (author.fields.filter fun field =>
          (library.model? (valueName field.type.innermost)).isSome)
        libraryAuthors.relations := by
  have listed : libraryAuthors ∈ (library.interpret {}).entities := List.mem_cons_self
  exact ⟨listed, rfl, rfl, relations_inferred listed rfl rfl⟩

end Schema

end EntityMapping
