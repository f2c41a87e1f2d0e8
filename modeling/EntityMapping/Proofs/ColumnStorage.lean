/-
Module: EntityMapping.Proofs.ColumnStorage
Purpose: Which columns have a storage type and which take their values from an enumeration. A column
  has one or the other, with one exception: a part of the primary key that has a default gets the
  storage type of a generated key even where its values are those of an enumeration.
Main exports: Field.IsKey, Field.HasDefault, Column.StoredFor, Schema.columns_stored,
  Schema.roles_not_exclusive
-/
import EntityMapping.Proofs.Interpretation

namespace EntityMapping

open Schema (Attribute Field)

/-! ### What the attributes say about keys and defaults -/

/-- Some attribute makes the field part of the primary key. -/
def Schema.Field.IsKey (field : Field) : Prop :=
  ∃ attr ∈ field.attributes, attr.mentions "id"

/-- Some attribute gives the field a default: its first argument is given by position and stands for
a word. -/
def Schema.Field.HasDefault (field : Field) : Prop :=
  ∃ attr ∈ field.attributes, attr.mentions "default" ∧
    ∃ expression, attr.args.head? = some (.positional expression) ∧ expression.word?.isSome

section Facts

variable {field : Field}

theorem Schema.Attribute.isSome_default?_iff (innermost : String) (attr : Attribute) :
    (attr.default? innermost).isSome ↔
      attr.mentions "default" ∧
        ∃ expression, attr.args.head? = some (.positional expression) ∧
          expression.word?.isSome := by
  unfold default?
  cases attr.mentions "default" with
  | false => simp
  | true =>
      cases attr.args.head? with
      | none => simp
      | some arg => cases arg <;> simp [Argument.positionalWord?]

theorem Schema.Field.primary_facts_iff : field.facts.primary ↔ field.IsKey := by
  simp [facts, FieldFacts.withAttributes, IsKey]

theorem Schema.Field.isSome_default_facts_iff : field.facts.default.isSome ↔ field.HasDefault := by
  unfold HasDefault
  simp only [← Attribute.isSome_default?_iff field.type.innermost]
  show ((field.attributes.filterMap
    (Attribute.default? field.type.innermost)).getLast?.or none).isSome ↔ _
  rw [Option.or_none, List.getLast?_isSome, ne_eq, List.filterMap_eq_nil_iff]
  simp [Option.isSome_iff_ne_none]

end Facts

/-! ### One column -/

namespace Column

variable {column : Column}

/-- A key with a default that is not empty is generated. -/
theorem withGenerator_of_key {generator : String} (key : column.primary = true)
    (default : column.default = some generator) (word : generator ≠ "") :
    column.withGenerator =
      { column with
        dbType := some (if generator = "uuid" then "uuid" else "int")
        default := none
        length := none
        generated := true } := by
  simp [withGenerator, default, key, word]

/-- Any other column stays as it is. -/
theorem withGenerator_of_stated
    (stated : ¬ (column.primary = true ∧ ∃ text, column.default = some text ∧ text ≠ "")) :
    column.withGenerator = column := by
  unfold withGenerator
  cases default : column.default with
  | none => rfl
  | some text =>
      refine if_neg ?_
      intro generated
      simp only [Bool.and_eq_true, Bool.not_eq_true', String.isEmpty_eq_false_iff] at generated
      exact stated ⟨generated.1, text, default, generated.2⟩

/-- A key with a default gets a storage type. -/
theorem dbType_withGenerator_of_key {generator : String} (key : column.primary = true)
    (default : column.default = some generator) (word : generator ≠ "") :
    column.withGenerator.dbType = some (if generator = "uuid" then "uuid" else "int") := by
  rw [withGenerator_of_key key default word]

/-- A column that is no key, or has no default, stays as it is. -/
theorem withGenerator_of_not_key (plain : column.primary = false ∨ column.default = none) :
    column.withGenerator = column := by
  apply withGenerator_of_stated
  rintro ⟨key, text, default, -⟩
  rcases plain with noKey | noDefault
  · simp [key] at noKey
  · simp [default] at noDefault

theorem isSome_dbType_withGenerator (stored : column.dbType.isSome) :
    column.withGenerator.dbType.isSome := by
  unfold withGenerator
  split
  · exact stored
  · split
    · rfl
    · exact stored

end Column

/-- The default of a column of an enumeration is a value after the name of the enumeration, which is
neither empty nor the name of a generator. -/
theorem Schema.Field.enumColumn_default_ne {field : Field} {facts : FieldFacts}
    {enumeration value : String}
    (default : (field.enumColumn facts enumeration).default = some value) :
    value ≠ "" ∧ value ≠ "uuid" := by
  obtain ⟨word, -, rfl⟩ := Option.map_eq_some_iff.mp default
  have dotted : '.' ∈ (enumeration ++ "." ++ Text.uppercase word).toList := by simp
  constructor
  · intro same
    rw [same] at dotted
    exact absurd dotted (by decide)
  · intro same
    rw [same] at dotted
    exact absurd dotted (by decide)

/-- How the column of a field is stored. -/
structure Column.StoredFor (schema : Schema) (field : Field) (column : Column) : Prop where
  name : column.name = field.name
  /-- The values are those of an enumeration exactly when the type of the field refers to it. -/
  enumType : ∀ name, column.enumType = some name ↔
    name = valueName field.type.innermost ∧ ∃ e, schema.LastNamed name (.enumeration e)
  /-- The column has either an enumeration or a storage type, unless it has an enumeration and is a
  key with a default. -/
  exclusive : (column.enumType.isSome ↔ column.dbType = none) ↔
    ¬ (column.enumType.isSome ∧ field.IsKey ∧ field.HasDefault)
  /-- A key with a default is stored as a number if its values are those of an enumeration. -/
  generated : column.enumType.isSome → field.IsKey → field.HasDefault → column.dbType = some "int"

namespace Schema

variable {schema : Schema} {field : Field}

/-- An enumeration column of a key with a default. -/
theorem dbType_enumColumn_of_key {enumeration : String} (key : field.IsKey)
    (default : field.HasDefault) :
    (field.enumColumn field.facts enumeration).withGenerator.dbType = some "int" := by
  have primary : (field.enumColumn field.facts enumeration).primary = true :=
    Field.primary_facts_iff.mpr key
  obtain ⟨word, given⟩ := Option.isSome_iff_exists.mp (Field.isSome_default_facts_iff.mpr default)
  have generator :
      (field.enumColumn field.facts enumeration).default =
        some (enumeration ++ "." ++ Text.uppercase word) := by
    simp [Field.enumColumn, given]
  obtain ⟨nonempty, noUuid⟩ := Field.enumColumn_default_ne generator
  rw [Column.dbType_withGenerator_of_key primary generator nonempty, if_neg noUuid]

/-- An enumeration column of any other field. -/
theorem dbType_enumColumn_of_not_key {enumeration : String}
    (plain : ¬ (field.IsKey ∧ field.HasDefault)) :
    (field.enumColumn field.facts enumeration).withGenerator.dbType = none := by
  rw [Column.withGenerator_of_not_key]
  · rfl
  · rcases not_and_or.mp plain with noKey | noDefault
    · left
      rw [← Field.primary_facts_iff, Bool.not_eq_true] at noKey
      exact noKey
    · right
      rw [← Field.isSome_default_facts_iff] at noDefault
      simpa [Field.enumColumn] using noDefault

theorem storedFor_enumColumn {e : Enumeration}
    (found : schema.lookup (valueName field.type.innermost) = some (.enumeration e)) :
    (field.enumColumn field.facts e.name).withGenerator.StoredFor schema field := by
  have named : e.name = valueName field.type.innermost :=
    Option.some.inj (name?_of_lookup found)
  have enumType : (field.enumColumn field.facts e.name).withGenerator.enumType = some e.name :=
    Column.enumType_withGenerator _
  constructor
  · exact Column.name_withGenerator _
  · intro name
    rw [enumType, Option.some.injEq, named, eq_comm (b := name)]
    refine (and_iff_left_of_imp ?_).symm
    rintro rfl
    exact ⟨e, lookup_eq_some_iff.mp found⟩
  · rw [enumType]
    by_cases keyed : field.IsKey ∧ field.HasDefault
    · simp [keyed, dbType_enumColumn_of_key keyed.1 keyed.2]
    · simp [keyed, dbType_enumColumn_of_not_key keyed]
  · intro _ key default
    exact dbType_enumColumn_of_key key default

theorem storedFor_plainColumn
    (found : schema.lookup (valueName field.type.innermost) = none) :
    (field.plainColumn field.facts).withGenerator.StoredFor schema field := by
  have enumType : (field.plainColumn field.facts).withGenerator.enumType = none :=
    Column.enumType_withGenerator _
  have stored : (field.plainColumn field.facts).withGenerator.dbType ≠ none :=
    Option.isSome_iff_ne_none.mp (Column.isSome_dbType_withGenerator rfl)
  constructor
  · exact Column.name_withGenerator _
  · intro name
    rw [enumType]
    refine iff_of_false (by simp) ?_
    rintro ⟨rfl, e, last⟩
    rw [lookup_eq_some_iff.mpr last] at found
    exact absurd found (by simp)
  · rw [enumType]
    simp [stored]
  · rw [enumType]
    simp

/-- A column that a field becomes is stored for the field. -/
theorem storedFor_of_outcome {owner : String} {column : Column}
    (became : (schema.outcome owner field).column? = some column) :
    column.StoredFor schema field := by
  rcases column?_outcome_cases became with ⟨e, found, rfl⟩ | ⟨found, rfl⟩
  · exact storedFor_enumColumn found
  · exact storedFor_plainColumn found

/-! ### All columns -/

variable {stamp : Stamp} {entity : Entity}

/-- The columns of an entity are stored, one by one and in order, for those fields that it is read
from whose type refers to no model. -/
theorem columns_stored (listed : entity ∈ (schema.interpret stamp).entities) :
    List.Forall₂ (fun field column => column.StoredFor schema field)
      ((schema.fieldsRead entity).filter fun field =>
        (schema.model? (valueName field.type.innermost)).isNone)
      entity.columns := by
  apply forall₂_columns_of_mem listed
  intro field column became
  exact storedFor_of_outcome became

/-! ### A key of an enumeration -/

/-- A schema with a key whose values are those of an enumeration, and that has a default. -/
def roles : Schema where
  declarations :=
    [.enumeration ⟨"Role", [.value "ADMIN"]⟩,
      .model ⟨"User",
        [.field ⟨"role", .named "Role",
          [⟨["id"], []⟩, ⟨["default"], [.positional (.path ["ADMIN"])]⟩]⟩]⟩]

/-- The table of the users in `roles`. -/
def roleUsers : Entity :=
  (roles.interpretEntity (.model "User" {})).entity

theorem roleUsers_mem : roleUsers ∈ (roles.interpret {}).entities :=
  List.mem_cons_of_mem _ List.mem_cons_self

theorem columns_stored_roleUsers :
    roleUsers ∈ (roles.interpret {}).entities ∧
      List.Forall₂ (fun field column => column.StoredFor roles field)
        [⟨"role", .named "Role",
          [⟨["id"], []⟩, ⟨["default"], [.positional (.path ["ADMIN"])]⟩]⟩]
        roleUsers.columns :=
  ⟨roleUsers_mem, columns_stored roleUsers_mem⟩

/-- The column `role` of `roles` has an enumeration and a storage type. -/
theorem roles_not_exclusive :
    ¬ ∀ entity ∈ (roles.interpret {}).entities, ∀ column ∈ entity.columns,
      (column.enumType.isSome ↔ column.dbType = none) := by
  intro exclusive
  have both : ∃ column ∈ roleUsers.columns,
      column.enumType = some "Role" ∧ column.dbType = some "int" := by
    decide +kernel
  obtain ⟨column, listed, enumType, dbType⟩ := both
  have missing := (exclusive roleUsers roleUsers_mem column listed).mp (by rw [enumType]; rfl)
  rw [dbType] at missing
  exact absurd missing (by simp)

end Schema

end EntityMapping
