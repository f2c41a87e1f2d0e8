/-
Module: EntityMapping.Proofs.EnumerationImports
Purpose: The files that an entity imports are those of the enumerations that its columns take their
  values from: each one once, in the order of the columns, and each one an entity of the result. Such
  a column has the name of its enumeration as the type of its values in code, and in front of its
  default.
Main exports: Column.NamesEnumeration, Entity.ImportsEnumerations, Schema.imports_enumerations
-/
import EntityMapping.Proofs.Interpretation
import EntityMapping.Proofs.KeyedList

namespace EntityMapping

open Schema (Field)

/-- The column carries the name of an enumeration wherever it speaks of its values. -/
structure Column.NamesEnumeration (column : Column) (name : String) : Prop where
  valueType : column.valueType = name
  default : ∀ text, column.default = some text → ∃ value, text = name ++ "." ++ value

/-- The entity imports the files of the enumerations of its columns, and no others. -/
structure Entity.ImportsEnumerations (entity : Entity) (interpretation : Interpretation) :
    Prop where
  /-- They are the enumerations of the columns in order, each where it occurs first. -/
  firsts : ∀ names, FirstOfEach id (entity.columns.filterMap Column.enumType) names ↔
    names = entity.imports.map ImportedFile.entityName
  distinct : (entity.imports.map ImportedFile.entityName).Nodup
  fileName : ∀ file ∈ entity.imports, file.fileName = file.entityName
  declared : ∀ file ∈ entity.imports, ∃ other ∈ interpretation.entities,
    other.name = file.entityName ∧ other.isEnum = true
  columns : ∀ column ∈ entity.columns, ∀ name, column.enumType = some name →
    column.NamesEnumeration name

/-- A generator leaves no default but the one that was given. -/
theorem Column.default_of_withGenerator {column : Column} {text : String}
    (kept : column.withGenerator.default = some text) : column.default = some text := by
  unfold withGenerator at kept
  split at kept
  · exact kept
  · split at kept
    · cases kept
    · exact kept

namespace Schema

variable {schema : Schema}

/-! ### One field -/

section OneField

variable {owner : String} {field : Field} {column : Column} {name : String}

/-- A column that takes its values from an enumeration is that of a field whose type refers to the
enumeration. -/
theorem exists_enumeration_of_enumType
    (became : (schema.outcome owner field).column? = some column)
    (typed : column.enumType = some name) :
    ∃ e, schema.lookup (valueName field.type.innermost) = some (.enumeration e) ∧ e.name = name ∧
      column = (field.enumColumn field.facts e.name).withGenerator := by
  rcases column?_outcome_cases became with ⟨e, found, rfl⟩ | ⟨found, rfl⟩
  · rw [Column.enumType_withGenerator] at typed
    exact ⟨e, found, Option.some.inj typed, rfl⟩
  · rw [Column.enumType_withGenerator] at typed
    cases typed

/-- A field needs the file of the enumeration that its column takes its values from. -/
theorem importsFor_eq (owner : String) (field : Field) :
    schema.importsFor field =
      ((schema.outcome owner field).column?.bind Column.enumType).toList.map .ofEntity := by
  unfold importsFor
  rcases schema.lookup_cases (valueName field.type.innermost) with ⟨m, found⟩ | ⟨e, found⟩ | found
  · rw [found, outcome_of_target (model?_eq_some_iff.mpr found)]
    rfl
  · rw [found, outcome_of_enumeration found, FieldResult.column?, Option.bind_some,
      Column.enumType_withGenerator]
    rfl
  · rw [found, outcome_of_none found, FieldResult.column?, Option.bind_some,
      Column.enumType_withGenerator]
    rfl

theorem namesEnumeration_of_enumType
    (became : (schema.outcome owner field).column? = some column)
    (typed : column.enumType = some name) : column.NamesEnumeration name := by
  obtain ⟨e, found, rfl, rfl⟩ := exists_enumeration_of_enumType became typed
  constructor
  · rw [Column.valueType_withGenerator]
    exact (Option.some.inj (name?_of_lookup found)).symm
  · intro text given
    obtain ⟨word, -, rfl⟩ := Option.map_eq_some_iff.mp (Column.default_of_withGenerator given)
    exact ⟨Text.uppercase word, rfl⟩

end OneField

/-! ### One entity -/

section OneEntity

variable {stamp : Stamp} {entity : Entity}
  (listed : entity ∈ (schema.interpret stamp).entities)

include listed

/-- A column of an entity is that of a field. -/
theorem exists_field_of_column {column : Column} (held : column ∈ entity.columns) :
    ∃ field, (schema.outcome entity.name field).column? = some column := by
  rw [columns_eq_of_mem listed] at held
  obtain ⟨result, hresult, became⟩ := List.mem_filterMap.mp held
  obtain ⟨field, -, rfl⟩ := List.mem_map.mp hresult
  exact ⟨field, became⟩

/-- An entity takes in the files of the enumerations of its columns, the first of each name. -/
theorem imports_eq_of_columns :
    entity.imports =
      appendEachNew ImportedFile.entityName []
        ((entity.columns.filterMap Column.enumType).map .ofEntity) := by
  rw [imports_eq_of_mem listed, columns_eq_of_mem listed, List.filterMap_filterMap,
    List.filterMap_map, List.map_filterMap, List.filterMap_eq_flatMap_toList]
  -- Both sides now go through the fields, so one field is compared with itself.
  congr 2
  funext field
  rw [importsFor_eq entity.name field, Option.toList_map]
  rfl

theorem mem_imports {file : ImportedFile} (held : file ∈ entity.imports) :
    ∃ column ∈ entity.columns, ∃ name, column.enumType = some name ∧ .ofEntity name = file := by
  rw [imports_eq_of_columns listed] at held
  obtain ⟨name, hname, same⟩ :=
    List.mem_map.mp (List.mem_of_find?_eq_some (mem_appendEachNew_iff.mp held))
  obtain ⟨column, hcolumn, typed⟩ := List.mem_filterMap.mp hname
  exact ⟨column, hcolumn, name, typed, same⟩

/-- The enumeration of an imported file is an entity of the result. -/
theorem exists_enumeration_of_import {file : ImportedFile} (held : file ∈ entity.imports) :
    ∃ other ∈ (schema.interpret stamp).entities,
      other.name = file.entityName ∧ other.isEnum = true := by
  obtain ⟨column, hcolumn, name, typed, rfl⟩ := mem_imports listed held
  obtain ⟨field, became⟩ := exists_field_of_column listed hcolumn
  obtain ⟨e, found, rfl, -⟩ := exists_enumeration_of_enumType became typed
  exact schema.exists_enumeration_of_mem stamp (mem_of_lookup found)

theorem firstOfEach_imports :
    FirstOfEach id (entity.columns.filterMap Column.enumType)
      (entity.imports.map ImportedFile.entityName) := by
  have first : FirstOfEach ImportedFile.entityName
      ((entity.columns.filterMap Column.enumType).map .ofEntity) entity.imports := by
    rw [imports_eq_of_columns listed]
    exact firstOfEach_appendEachNew _
  have named : ((entity.columns.filterMap Column.enumType).map ImportedFile.ofEntity).map
      ImportedFile.entityName = entity.columns.filterMap Column.enumType := by
    rw [List.map_map]
    exact List.map_id _
  rw [← named]
  exact first.map_key

/-- Every entity imports the files of just the enumerations that its columns take their values
from. -/
theorem imports_enumerations : entity.ImportsEnumerations (schema.interpret stamp) := by
  constructor
  · intro names
    constructor
    · intro first
      exact (firstOfEach_imports listed).unique first
    · rintro rfl
      exact firstOfEach_imports listed
  · rw [imports_eq_of_mem listed]
    exact nodup_appendEachNew _ List.nodup_nil
  · intro file held
    obtain ⟨-, -, name, -, rfl⟩ := mem_imports listed held
    rfl
  · intro file held
    exact exists_enumeration_of_import listed held
  · intro column held name typed
    obtain ⟨field, became⟩ := exists_field_of_column listed held
    exact namesEnumeration_of_enumType became typed

end OneEntity

/-! ### Tickets -/

/-- A schema with a model that uses one enumeration twice and another one in between, and that has a
key of an enumeration, a relation and a plain column besides. -/
def tickets : Schema where
  declarations :=
    [.enumeration ⟨"Level", [.value "LOW"]⟩, .enumeration ⟨"State", [.value "OPEN"]⟩,
      .model ⟨"Ticket",
        [.field ⟨"state", .named "State", [⟨["default"], [.positional (.path ["open"])]⟩]⟩,
          .field ⟨"title", .named "String", []⟩,
          .field ⟨"level", .optional (.named "Level"), []⟩,
          .field ⟨"parent", .optional (.named "Ticket"), []⟩,
          .field ⟨"previous", .named "State",
            [⟨["id"], []⟩, ⟨["default"], [.positional (.path ["open"])]⟩]⟩]⟩]

/-- The table of `tickets`. -/
def ticketTable : Entity :=
  (tickets.interpretEntity (.model "Ticket" {})).entity

example :
    ticketTable.imports =
      [{ entityName := "State", fileName := "State" },
        { entityName := "Level", fileName := "Level" }] := by
  decide +kernel

theorem imports_enumerations_ticketTable :
    ticketTable ∈ (tickets.interpret {}).entities ∧
      ticketTable.ImportsEnumerations (tickets.interpret {}) := by
  have listed : ticketTable ∈ (tickets.interpret {}).entities :=
    List.mem_cons_of_mem _ (List.mem_cons_of_mem _ List.mem_cons_self)
  exact ⟨listed, imports_enumerations listed⟩

end Schema

end EntityMapping
