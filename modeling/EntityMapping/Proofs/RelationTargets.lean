/-
Module: EntityMapping.Proofs.RelationTargets
Purpose: Relations lead to tables. The table that a relation names is in the result and was read
  from a model; and if a field of that model leads back, every table of the name has a relation for
  the field that the relation names as its inverse.
Main exports: Entity.ReadFrom, Schema.exists_field_of_mem_relations, Schema.relations_never_dangle
-/
import EntityMapping.Proofs.Interpretation

namespace EntityMapping

open Schema (Field Model)

/-- The entity is the table that interpreting the members of `model` makes of its draft. The model
is the last declaration of the entity's name. -/
structure Entity.ReadFrom (schema : Schema) (stamp : Stamp) (model : Model) (entity : Entity) :
    Prop where
  table : entity.isEnum = false
  last : schema.LastNamed entity.name (.model model)
  filled :
    entity =
      (Draft.addModel schema { entity := .model entity.name stamp, diagnostics := [] } model).entity

namespace Schema

variable {schema : Schema} {stamp : Stamp} {entity : Entity} {relation : Relation}

/-- A table whose name refers to a model is read from that model. -/
theorem readFrom_of_mem {m : Model} (listed : entity ∈ (schema.interpret stamp).entities)
    (table : entity.isEnum = false) (read : schema.model? entity.name = some m) :
    entity.ReadFrom schema stamp m := by
  refine ⟨table, lookup_eq_some_iff.mp (model?_eq_some_iff.mp read), ?_⟩
  rcases enumeration_or_table_of_mem listed with ⟨e, rfl⟩ | ⟨_, extended⟩
  · exact absurd table (by simp [Entity.enumeration])
  · rw [Draft.addModel_eq]
    rw [schema.entityPart_of_model entity table read] at extended
    exact extended

/-- A name that refers to a model is the name of a table that is read from it. -/
theorem exists_readFrom_of_model? {name : String} {m : Model}
    (read : schema.model? name = some m) (stamp : Stamp) :
    ∃ table ∈ (schema.interpret stamp).entities,
      table.name = name ∧ table.ReadFrom schema stamp m := by
  have declared : .model m ∈ schema.declarations := mem_of_lookup (model?_eq_some_iff.mp read)
  obtain ⟨table, listed, named, isTable⟩ := schema.exists_table_of_mem stamp declared
  rw [name_of_model? read] at named
  exact ⟨table, listed, named, readFrom_of_mem listed isTable (by rw [named]; exact read)⟩

/-- The relations of an entity are made by the fields that it is read from, as far as their types
refer to models. -/
theorem mem_relations_iff (listed : entity ∈ (schema.interpret stamp).entities) :
    relation ∈ entity.relations ↔
      ∃ field ∈ schema.fieldsRead entity, ∃ related, schema.target? field = some related ∧
        relation = field.relationTo entity.name related (field.facts.relation.getD {}) := by
  rw [relations_eq_of_mem listed, List.mem_filterMap]
  constructor
  · rintro ⟨result, became, made⟩
    obtain ⟨field, hfield, rfl⟩ := List.mem_map.mp became
    rw [relation?_outcome, Option.map_eq_some_iff] at made
    obtain ⟨related, target, same⟩ := made
    exact ⟨field, hfield, related, target, same.symm⟩
  · rintro ⟨field, hfield, related, target, same⟩
    refine ⟨schema.outcome entity.name field, List.mem_map_of_mem hfield, ?_⟩
    rw [relation?_outcome, target, same]
    rfl

/-- A field whose type is called `owner` as written, where `owner` refers to a model and is not
builtin, refers to that model. -/
theorem target?_of_innermost {field : Field} {owner : String} {m : Model}
    (leadsBack : field.type.innermost = owner) (other : owner ∉ BuiltinType.names)
    (read : schema.model? owner = some m) : schema.target? field = some m := by
  rw [target?, leadsBack, valueName_of_not_mem other]
  exact read

/-- Where some field leads back, there is a first one that does. -/
theorem Model.exists_head?_backReferences {owner : String} {m : Model} {back : Field}
    (listed : back ∈ m.fields) (leadsBack : back.type.innermost = owner) :
    ∃ first ∈ m.fields,
      first.type.innermost = owner ∧ (m.backReferences owner).head? = some first := by
  have found : (m.fields.find? (·.type.innermost == owner)).isSome :=
    List.find?_isSome.mpr ⟨back, listed, by simpa using leadsBack⟩
  obtain ⟨first, isFirst⟩ := Option.isSome_iff_exists.mp found
  refine ⟨first, List.mem_of_find?_eq_some isFirst, by simpa using List.find?_some isFirst, ?_⟩
  rw [backReferences, List.head?_filter, isFirst]

/-- The table that a relation names is in the result and read from a model. If the relation's own
entity is not named like a builtin type and a field of that model leads back to it, then every table
of the name has a relation for the field that the relation names, and it leads back. -/
theorem relations_never_dangle (listed : entity ∈ (schema.interpret stamp).entities)
    (related : relation ∈ entity.relations) :
    ∃ model,
      (∃ table ∈ (schema.interpret stamp).entities,
        table.name = relation.relatedTable ∧ table.ReadFrom schema stamp model) ∧
      (entity.name ∉ BuiltinType.names →
        (∃ back ∈ model.fields, back.type.innermost = entity.name) →
        ∀ table ∈ (schema.interpret stamp).entities,
          table.name = relation.relatedTable → table.isEnum = false →
          ∃ inverse ∈ table.relations,
            inverse.fieldName = relation.relatedField ∧ inverse.relatedTable = entity.name) := by
  obtain ⟨field, hfield, model, target, rfl⟩ := (mem_relations_iff listed).mp related
  obtain ⟨-, owner, readOwner, -⟩ := mem_fieldsRead_iff.mp hfield
  have readRelated : schema.model? model.name = some model := by
    rw [name_of_model? target]
    exact target
  refine ⟨model, exists_readFrom_of_model? readRelated stamp, ?_⟩
  rintro other ⟨back, hback, leadsBack⟩ table listedTable named isTable
  -- The inverse is the first field that leads back, which need not be `back`.
  obtain ⟨first, hfirst, firstLeadsBack, isFirst⟩ :=
    Model.exists_head?_backReferences hback leadsBack
  have readTable : schema.model? table.name = some model := by
    rw [named]
    exact readRelated
  have listedFirst : first ∈ schema.fieldsRead table :=
    mem_fieldsRead_iff.mpr ⟨isTable, model, readTable, hfirst⟩
  have targetFirst : schema.target? first = some owner :=
    target?_of_innermost firstLeadsBack other readOwner
  refine ⟨_, (mem_relations_iff listedTable).mpr ⟨first, listedFirst, owner, targetFirst, rfl⟩,
    ?_, ?_⟩
  · simp [Field.relationTo, isFirst]
  · exact name_of_model? readOwner

/-! ### A model that is declared twice -/

/-- The last declaration of the books of `reprints`. -/
def reprint : Model :=
  ⟨"Book", [.field ⟨"editor", .optional (.named "Author"), []⟩,
    .field ⟨"writers", .list (.named "Author"), []⟩]⟩

/-- A schema with two declarations of books, of which the last one leads back to the authors. -/
def reprints : Schema where
  declarations :=
    [.model ⟨"Book", [.field ⟨"title", .named "String", []⟩]⟩,
      .model ⟨"Author", [.field ⟨"books", .list (.named "Book"), []⟩]⟩, .model reprint]

/-- The table of the authors in `reprints`. -/
def reprintAuthors : Entity :=
  (reprints.interpretEntity (.model "Author" {})).entity

/-- The relation from authors to books in `reprints`. -/
def reprintBooks : Relation where
  cardinality := .oneToMany
  relatedTable := "Book"
  relatedField := "editor"
  fieldName := "books"

theorem relations_never_dangle_reprints :
    reprintAuthors ∈ (reprints.interpret {}).entities ∧
      reprintBooks ∈ reprintAuthors.relations ∧
      (∃ table ∈ (reprints.interpret {}).entities,
        table.name = "Book" ∧ table.ReadFrom reprints {} reprint) ∧
      ∀ table ∈ (reprints.interpret {}).entities, table.name = "Book" → table.isEnum = false →
        ∃ inverse ∈ table.relations,
          inverse.fieldName = "editor" ∧ inverse.relatedTable = "Author" := by
  have listed : reprintAuthors ∈ (reprints.interpret {}).entities :=
    List.mem_cons_of_mem _ List.mem_cons_self
  have related : reprintBooks ∈ reprintAuthors.relations := List.mem_cons_self
  obtain ⟨model, ⟨table, listedTable, named, read⟩, inverses⟩ :=
    relations_never_dangle listed related
  have last : reprints.lookup table.name = some (.model model) := lookup_eq_some_iff.mpr read.last
  have same : model = reprint := by
    rw [named] at last
    exact Declaration.model.inj (Option.some.inj last.symm)
  subst same
  refine ⟨listed, related, ⟨table, listedTable, named, read⟩, ?_⟩
  exact inverses (by decide) ⟨⟨"editor", .optional (.named "Author"), []⟩, List.mem_cons_self, rfl⟩

end Schema

end EntityMapping
