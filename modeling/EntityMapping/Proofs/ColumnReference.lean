/-
Module: EntityMapping.Proofs.ColumnReference
Purpose: What the column of a field is, said of the schema and the field without running through the
  attributes. A marker counts wherever it stands, the default, the length and the storage type are
  the last ones given, and a key with a default is stored the way its generator needs. Every column
  of a table is what is said here of its field.
Main exports: Renamed, Expr.StandsFor, Attribute.GivesDefault, Attribute.GivesLength,
  Attribute.GivesStorage, Field.StatesDefault, Schema.DefaultsTo, Schema.StoresAs, Column.Specified,
  Schema.columns_specified
-/
import EntityMapping.Proofs.ColumnStorage

namespace EntityMapping

open Schema (Argument Attribute Enumeration Expr Field Literal Model)

/-! ### Types under other names -/

/-- What a name is called where a table gives some names another name. -/
inductive Renamed (table : List (String × String)) (name : String) : String → Prop where
  | listed {text : String} (entry : (name, text) ∈ table) : Renamed table name text
  | unlisted (missing : name ∉ table.map Prod.fst) : Renamed table name name

theorem eq_iff_renamed {table : List (String × String)} {rename : String → String}
    (listed : ∀ entry ∈ table, rename entry.1 = entry.2)
    (unlisted : ∀ name, name ∉ table.map Prod.fst → rename name = name) {name text : String} :
    rename name = text ↔ Renamed table name text := by
  constructor
  · rintro rfl
    by_cases known : name ∈ table.map Prod.fst
    · obtain ⟨entry, hentry, rfl⟩ := List.mem_map.mp known
      apply Renamed.listed
      rw [listed entry hentry]
      exact hentry
    · rw [unlisted name known]
      exact Renamed.unlisted known
  · rintro (entry | missing)
    · exact listed _ entry
    · exact unlisted _ missing

namespace BuiltinType

/-- The builtin types with their names in code. -/
def valueTable : List (String × String) :=
  [("String", "string"), ("Int", "number"), ("Boolean", "boolean"), ("DateTime", "Date"),
    ("Json", "object")]

/-- The builtin types with their names in storage. -/
def storageTable : List (String × String) :=
  [("String", "varchar"), ("Int", "int"), ("Boolean", "boolean"), ("DateTime", "datetime"),
    ("Json", "json")]

end BuiltinType

/-- The storage types that an attribute may ask for, with their names in storage. -/
def NativeStorage.table : List (String × String) :=
  [("VarChar", "varchar"), ("Text", "text"), ("Int", "int")]

section Names

variable {name text : String}

theorem valueName_eq_iff : valueName name = text ↔ Renamed BuiltinType.valueTable name text := by
  apply eq_iff_renamed
  · decide
  · intro name missing
    exact valueName_of_not_mem missing

theorem storageName_eq_iff :
    storageName name = text ↔ Renamed BuiltinType.storageTable name text := by
  apply eq_iff_renamed
  · decide
  · intro name missing
    simp [storageName, BuiltinType.ofName?_of_not_mem missing]

theorem nativeStorageName_eq_iff :
    nativeStorageName name = text ↔ Renamed NativeStorage.table name text := by
  apply eq_iff_renamed
  · decide
  · intro name missing
    have noVarChar : name ≠ "VarChar" := by rintro rfl; exact missing (by decide)
    have noText : name ≠ "Text" := by rintro rfl; exact missing (by decide)
    have noInt : name ≠ "Int" := by rintro rfl; exact missing (by decide)
    simp [nativeStorageName, NativeStorage.ofName?, noVarChar, noText, noInt]

end Names

/-! ### What one attribute gives -/

/-- The expression stands for a word: a literal for its text, a dotted name, called or not, for its
first segment. -/
inductive Schema.Expr.StandsFor : Expr → String → Prop where
  | literal (value : Literal) : StandsFor (.literal value) value.display
  | path (head : String) (rest : List String) : StandsFor (.path (head :: rest)) head
  | call (head : String) (rest : List String) (args : List Argument) :
      StandsFor (.call (head :: rest) args) head

namespace Schema.Attribute

/-- The attribute gives a word as the default, by its first argument. -/
def GivesDefault (attr : Attribute) (word : String) : Prop :=
  "default" ∈ attr.path ∧
    ∃ expression rest, attr.args = .positional expression :: rest ∧ expression.StandsFor word

/-- The attribute gives a length, by an integer of 32 bits without a sign as its first argument. -/
def GivesLength (attr : Attribute) (length : Nat) : Prop :=
  "db" ∈ attr.path ∧ length < UInt32.size ∧
    ∃ rest, attr.args = .positional (.literal (.integer length)) :: rest

/-- The attribute gives a storage type, by the second segment of its name. -/
def GivesStorage (attr : Attribute) (native : String) : Prop :=
  "db" ∈ attr.path ∧ ∃ first rest, attr.path = first :: native :: rest

end Schema.Attribute

/-! ### What all attributes of a field come to -/

/-- The attributes of the field state a default: the word given last, where the current time of a
point in time is the database's own. -/
inductive Schema.Field.StatesDefault (field : Field) : String → Prop where
  | currentTime (pointInTime : field.type.innermost = "DateTime")
      (last : LastGiven Attribute.GivesDefault field.attributes "now") :
      StatesDefault field "CURRENT_TIMESTAMP(3)"
  | word {word : String} (other : ¬ (field.type.innermost = "DateTime" ∧ word = "now"))
      (last : LastGiven Attribute.GivesDefault field.attributes word) : StatesDefault field word

namespace Schema

/-- The values of the field are those of an enumeration. -/
def TakesValuesOf (schema : Schema) (field : Field) (e : Enumeration) : Prop :=
  schema.LastNamed (valueName field.type.innermost) (.enumeration e)

/-- The default of the field. If its values are those of an enumeration, it is one of them, in
capitals after the name of the enumeration. -/
inductive DefaultsTo (schema : Schema) (field : Field) : String → Prop where
  | value {e : Enumeration} {text : String} (typed : schema.TakesValuesOf field e)
      (stated : field.StatesDefault text) :
      DefaultsTo schema field (e.name ++ "." ++ Text.uppercase text)
  | plain {text : String} (untyped : ∀ e, ¬ schema.TakesValuesOf field e)
      (stated : field.StatesDefault text) : DefaultsTo schema field text

/-- The storage type of the field: the one asked for last, or else that of its type. The values of
an enumeration have none. -/
inductive StoresAs (schema : Schema) (field : Field) : String → Prop where
  | asked {native text : String} (untyped : ∀ e, ¬ schema.TakesValuesOf field e)
      (last : LastGiven Attribute.GivesStorage field.attributes native)
      (called : Renamed NativeStorage.table native text) : StoresAs schema field text
  | builtin {text : String} (untyped : ∀ e, ¬ schema.TakesValuesOf field e)
      (unasked : ∀ attr ∈ field.attributes, ∀ native, ¬ attr.GivesStorage native)
      (called : Renamed BuiltinType.storageTable field.type.innermost text) :
      StoresAs schema field text

end Schema

/-! ### What a column should be -/

namespace Column

/-- What a column tells of its field, however its values are stored. -/
structure Describes (schema : Schema) (field : Field) (column : Column) : Prop where
  name : column.name = field.name
  valueType : Renamed BuiltinType.valueTable field.type.innermost column.valueType
  nullable : column.nullable = true ↔ ∃ inner, field.type = .optional inner
  primary : column.primary = true ↔ ∃ attr ∈ field.attributes, "id" ∈ attr.path
  unique : column.unique = true ↔ ∃ attr ∈ field.attributes, "unique" ∈ attr.path
  enumType : ∀ name, column.enumType = some name ↔
    ∃ e, schema.TakesValuesOf field e ∧ e.name = name

/-- The column is stored as the attributes of its field state. -/
structure StoredAsStated (schema : Schema) (field : Field) (column : Column) : Prop where
  default : ∀ text, column.default = some text ↔ schema.DefaultsTo field text
  length : ∀ n, column.length = some n ↔ LastGiven Attribute.GivesLength field.attributes n
  dbType : ∀ text, column.dbType = some text ↔ schema.StoresAs field text

/-- The column is stored as its generator needs. -/
structure StoredAsKey (schema : Schema) (field : Field) (column : Column) : Prop where
  default : column.default = none
  length : column.length = none
  uuid : schema.DefaultsTo field "uuid" → column.dbType = some "uuid"
  number : ¬ schema.DefaultsTo field "uuid" → column.dbType = some "int"

/-- What the column of a field should be. A part of the primary key that has a default which is not
empty is generated by the database. -/
structure Specified (schema : Schema) (field : Field) (column : Column) : Prop
    extends Column.Describes schema field column where
  generated : column.generated = true ↔
    column.primary = true ∧ ∃ text, schema.DefaultsTo field text ∧ text ≠ ""
  asKey : column.generated = true → column.StoredAsKey schema field
  asStated : column.generated = false → column.StoredAsStated schema field

end Column

/-! ### Reading the attributes -/

section Attributes

theorem Schema.Expr.word?_eq_some_iff {expression : Expr} {word : String} :
    expression.word? = some word ↔ expression.StandsFor word := by
  constructor
  · intro stands
    cases expression with
    | literal value =>
        obtain rfl := Option.some.inj stands
        exact StandsFor.literal value
    | path segments =>
        obtain ⟨rest, rfl⟩ := List.head?_eq_some_iff.mp stands
        exact StandsFor.path word rest
    | call callee args =>
        obtain ⟨rest, rfl⟩ := List.head?_eq_some_iff.mp stands
        exact StandsFor.call word rest args
    | array items => simp [word?] at stands
  · intro stands
    cases stands <;> rfl

theorem Schema.Argument.length?_eq_some_iff {arg : Argument} {n : Nat} :
    arg.length? = some n ↔ n < UInt32.size ∧ arg = .positional (.literal (.integer n)) := by
  constructor
  · intro given
    unfold length? at given
    split at given
    case h_1 m =>
      obtain ⟨⟨natural, small⟩, same⟩ := Option.ite_none_right_eq_some.mp given
      obtain rfl := Option.some.inj same
      obtain ⟨k, rfl⟩ := Int.eq_ofNat_of_zero_le natural
      exact ⟨Int.ofNat_lt.mp small, rfl⟩
    case h_2 => simp at given
  · rintro ⟨small, rfl⟩
    have fits : (n : Int) < UInt32.size := Int.ofNat_lt.mpr small
    simp only [length?, Int.natCast_nonneg, fits, and_self, if_true, Int.toNat_natCast]

namespace Schema.Attribute

variable {attr : Attribute}

/-- The word that an attribute gives as the default. -/
def defaultWord? (attr : Attribute) : Option String :=
  if attr.mentions "default" then attr.args.head?.bind Argument.positionalWord? else none

theorem default?_eq (innermost : String) (attr : Attribute) :
    attr.default? innermost = attr.defaultWord?.map (defaultText · innermost) := by
  unfold default? defaultWord?
  split <;> rfl

theorem defaultWord?_eq_some_iff (attr : Attribute) (word : String) :
    attr.defaultWord? = some word ↔ attr.GivesDefault word := by
  unfold defaultWord? GivesDefault
  by_cases named : "default" ∈ attr.path
  · rw [if_pos (mentions_iff.mpr named)]
    cases attr.args with
    | nil => simp
    | cons arg rest =>
        cases arg with
        | positional expression =>
            simp [named, Argument.positionalWord?, Expr.word?_eq_some_iff]
        | named name expression => simp [Argument.positionalWord?]
  · rw [if_neg (mt mentions_iff.mp named)]
    simp [named]

/-- The storage type that an attribute asks for, as the attribute calls it. -/
def native? (attr : Attribute) : Option String :=
  if attr.mentions "db" then attr.path[1]? else none

theorem storage?_eq (attr : Attribute) : attr.storage? = attr.native?.map nativeStorageName := by
  unfold storage? native?
  split <;> rfl

theorem native?_eq_some_iff (attr : Attribute) (native : String) :
    attr.native? = some native ↔ attr.GivesStorage native := by
  have second : ∀ path : List String,
      path[1]? = some native ↔ ∃ first rest, path = first :: native :: rest := by
    intro path
    rcases path with _ | ⟨first, _ | ⟨second, rest⟩⟩ <;> simp
  unfold native? GivesStorage
  by_cases named : "db" ∈ attr.path
  · rw [if_pos (mentions_iff.mpr named), second, and_iff_right named]
  · rw [if_neg (mt mentions_iff.mp named)]
    simp [named]

theorem length?_eq_some_iff (attr : Attribute) (n : Nat) :
    attr.length? = some n ↔ attr.GivesLength n := by
  unfold length? GivesLength
  by_cases named : "db" ∈ attr.path
  · rw [if_pos (mentions_iff.mpr named), and_iff_right named]
    cases attr.args with
    | nil => simp
    | cons arg rest => simp [Argument.length?_eq_some_iff]
  · rw [if_neg (mt mentions_iff.mp named)]
    simp [named]

end Schema.Attribute

namespace Schema.Field

variable {field : Field}

theorem exists_mentions_iff (segment : String) :
    field.attributes.any (·.mentions segment) = true ↔
      ∃ attr ∈ field.attributes, segment ∈ attr.path := by
  simp [Attribute.mentions_iff]

theorem isOptional_iff : field.type.isOptional = true ↔ ∃ inner, field.type = .optional inner := by
  cases field.type <;> simp [FieldType.isOptional]

theorem default_facts_eq_some_iff {text : String} :
    field.facts.default = some text ↔ field.StatesDefault text := by
  have last (word : String) :
      (field.attributes.filterMap Attribute.defaultWord?).getLast? = some word ↔
        LastGiven Attribute.GivesDefault field.attributes word :=
    getLast?_filterMap_eq_some_iff Attribute.defaultWord?_eq_some_iff
  have read :
      field.facts.default =
        ((field.attributes.filterMap Attribute.defaultWord?).getLast?).map
          (defaultText · field.type.innermost) := by
    simp only [facts, FieldFacts.withAttributes, Option.or_none, Attribute.default?_eq,
      ← List.getLast?_map, List.map_filterMap]
  rw [read, Option.map_eq_some_iff]
  simp only [last]
  constructor
  · rintro ⟨word, last, rfl⟩
    unfold defaultText
    split
    case isTrue replaced =>
      obtain ⟨pointInTime, rfl⟩ := replaced
      exact StatesDefault.currentTime pointInTime last
    case isFalse other => exact StatesDefault.word other last
  · intro stated
    cases stated with
    | currentTime pointInTime last => exact ⟨"now", last, if_pos ⟨pointInTime, rfl⟩⟩
    | word other last => exact ⟨text, last, if_neg other⟩

theorem length_facts_eq_some_iff {n : Nat} :
    field.facts.length = some n ↔ LastGiven Attribute.GivesLength field.attributes n := by
  rw [← getLast?_filterMap_eq_some_iff Attribute.length?_eq_some_iff]
  simp only [facts, FieldFacts.withAttributes, Option.or_none]

/-- The storage type that the attributes ask for last, as they call it. -/
theorem dbType_facts :
    field.facts.dbType =
      ((field.attributes.filterMap Attribute.native?).getLast?).map nativeStorageName := by
  simp only [facts, FieldFacts.withAttributes, Option.or_none, ← List.getLast?_map,
    List.map_filterMap, ← Attribute.storage?_eq]

end Schema.Field

end Attributes

/-! ### Columns before a generator is considered -/

namespace Schema

variable {schema : Schema} {field : Field}

theorem takesValuesOf_iff {e : Enumeration} :
    schema.TakesValuesOf field e ↔
      schema.lookup (valueName field.type.innermost) = some (.enumeration e) :=
  lookup_eq_some_iff.symm

theorem takesValuesOf_unique {e other : Enumeration} (first : schema.TakesValuesOf field e)
    (second : schema.TakesValuesOf field other) : other = e := by
  rw [takesValuesOf_iff] at first second
  simpa [first] using second.symm

/-- All columns of a field describe it that differ in what is stored and in the enumeration, if that
is the one of the field. -/
theorem describes_column (dbType default enumType : Option String)
    (called : ∀ name, enumType = some name ↔ ∃ e, schema.TakesValuesOf field e ∧ e.name = name) :
    Column.Describes schema field
      { field.plainColumn field.facts with
        dbType := dbType, default := default, enumType := enumType } := by
  constructor
  · rfl
  · exact valueName_eq_iff.mp rfl
  · exact Field.isOptional_iff
  · simpa [Field.plainColumn, Field.facts, FieldFacts.withAttributes] using
      Field.exists_mentions_iff "id"
  · simpa [Field.plainColumn, Field.facts, FieldFacts.withAttributes] using
      Field.exists_mentions_iff "unique"
  · exact called

/-! #### A field of no enumeration -/

section Plain

variable (untyped : ∀ e, ¬ schema.TakesValuesOf field e)

include untyped

theorem defaultsTo_iff_of_untyped {text : String} :
    schema.DefaultsTo field text ↔ field.StatesDefault text := by
  constructor
  · intro defaults
    cases defaults with
    | value typed _ => exact absurd typed (untyped _)
    | plain _ stated => exact stated
  · exact DefaultsTo.plain untyped

theorem storesAs_iff_of_untyped {text : String} :
    field.facts.dbType.getD (storageName field.type.innermost) = text ↔
      schema.StoresAs field text := by
  have last (native : String) :
      (field.attributes.filterMap Attribute.native?).getLast? = some native ↔
        LastGiven Attribute.GivesStorage field.attributes native :=
    getLast?_filterMap_eq_some_iff Attribute.native?_eq_some_iff
  have unasked :
      (field.attributes.filterMap Attribute.native?).getLast? = none ↔
        ∀ attr ∈ field.attributes, ∀ native, ¬ attr.GivesStorage native :=
    getLast?_filterMap_eq_none_iff Attribute.native?_eq_some_iff
  rw [Field.dbType_facts]
  constructor
  · rintro rfl
    cases given : (field.attributes.filterMap Attribute.native?).getLast? with
    | none => exact StoresAs.builtin untyped (unasked.mp given) (storageName_eq_iff.mp rfl)
    | some native =>
        exact StoresAs.asked untyped ((last native).mp given) (nativeStorageName_eq_iff.mp rfl)
  · intro stores
    cases stores with
    | asked _ given called =>
        rw [(last _).mpr given]
        exact nativeStorageName_eq_iff.mpr called
    | builtin _ none called =>
        rw [unasked.mpr none]
        exact storageName_eq_iff.mpr called

theorem describes_plainColumn : (field.plainColumn field.facts).Describes schema field := by
  apply describes_column
  intro name
  apply iff_of_false
  · simp
  · rintro ⟨e, typed, -⟩
    exact untyped e typed

theorem storedAsStated_plainColumn :
    (field.plainColumn field.facts).StoredAsStated schema field := by
  constructor
  · intro text
    rw [defaultsTo_iff_of_untyped untyped]
    exact Field.default_facts_eq_some_iff
  · intro n
    exact Field.length_facts_eq_some_iff
  · intro text
    rw [← storesAs_iff_of_untyped untyped]
    exact Option.some_inj

end Plain

/-! #### A field of an enumeration -/

section Typed

variable {e : Enumeration} (typed : schema.TakesValuesOf field e)

include typed

theorem defaultsTo_iff_of_typed {text : String} :
    schema.DefaultsTo field text ↔
      ∃ word, field.StatesDefault word ∧ e.name ++ "." ++ Text.uppercase word = text := by
  constructor
  · intro defaults
    cases defaults with
    | value typed' stated =>
        obtain rfl := takesValuesOf_unique typed typed'
        exact ⟨_, stated, rfl⟩
    | plain untyped _ => exact absurd typed (untyped e)
  · rintro ⟨word, stated, rfl⟩
    exact DefaultsTo.value typed stated

theorem not_storesAs_of_typed (text : String) : ¬ schema.StoresAs field text := by
  intro stores
  cases stores with
  | asked untyped => exact untyped e typed
  | builtin untyped => exact untyped e typed

theorem describes_enumColumn :
    (field.enumColumn field.facts e.name).Describes schema field := by
  apply describes_column
  intro name
  constructor
  · intro called
    exact ⟨e, typed, Option.some.inj called⟩
  · rintro ⟨other, typed', rfl⟩
    rw [takesValuesOf_unique typed typed']

theorem storedAsStated_enumColumn :
    (field.enumColumn field.facts e.name).StoredAsStated schema field := by
  constructor
  · intro text
    rw [defaultsTo_iff_of_typed typed]
    simp only [← Field.default_facts_eq_some_iff]
    exact Option.map_eq_some_iff
  · intro n
    exact Field.length_facts_eq_some_iff
  · intro text
    apply iff_of_false
    · simp [Field.enumColumn]
    · exact not_storesAs_of_typed typed text

end Typed

end Schema

/-! ### Columns with their generator -/

namespace Column

variable {schema : Schema} {field : Field} {column : Column}

theorem Describes.withGenerator (described : column.Describes schema field) :
    column.withGenerator.Describes schema field := by
  obtain ⟨dbType, length, default, generated, changed⟩ := column.withGenerator_eq
  rw [changed]
  exact ⟨described.name, described.valueType, described.nullable, described.primary,
    described.unique, described.enumType⟩

theorem specified_withGenerator (described : column.Describes schema field)
    (stated : column.StoredAsStated schema field) (fresh : column.generated = false) :
    column.withGenerator.Specified schema field := by
  have describedToo := described.withGenerator
  by_cases keyed : column.primary = true ∧ ∃ text, column.default = some text ∧ text ≠ ""
  · obtain ⟨key, generator, default, word⟩ := keyed
    have defaults : ∀ text, schema.DefaultsTo field text ↔ generator = text := by
      intro text
      rw [← stated.default, default, Option.some_inj]
    rw [withGenerator_of_key key default word] at describedToo ⊢
    refine { describedToo with generated := ?_, asKey := ?_, asStated := ?_ }
    · exact iff_of_true rfl ⟨key, generator, (defaults generator).mpr rfl, word⟩
    · intro _
      constructor
      · rfl
      · rfl
      · intro uuid
        exact congrArg some (if_pos ((defaults "uuid").mp uuid))
      · intro other
        exact congrArg some (if_neg (mt (defaults "uuid").mpr other))
    · intro fresh
      cases fresh
  · rw [withGenerator_of_stated keyed]
    refine { described with generated := ?_, asKey := ?_, asStated := ?_ }
    · rw [fresh]
      simp only [stated.default] at keyed
      exact iff_of_false Bool.false_ne_true keyed
    · intro generated
      rw [fresh] at generated
      cases generated
    · intro _
      exact stated

end Column

/-! ### All columns of a table -/

namespace Schema

variable {schema : Schema} {stamp : Stamp} {entity : Entity} {model : Model}

theorem specified_of_outcome {owner : String} {field : Field} {column : Column}
    (became : (schema.outcome owner field).column? = some column) :
    column.Specified schema field := by
  rcases column?_outcome_cases became with ⟨e, found, rfl⟩ | ⟨found, rfl⟩
  · have typed : schema.TakesValuesOf field e := takesValuesOf_iff.mpr found
    exact Column.specified_withGenerator (describes_enumColumn typed)
      (storedAsStated_enumColumn typed) rfl
  · have untyped : ∀ e, ¬ schema.TakesValuesOf field e := by
      intro e typed
      rw [takesValuesOf_iff, found] at typed
      cases typed
    exact Column.specified_withGenerator (describes_plainColumn untyped)
      (storedAsStated_plainColumn untyped) rfl

/-- The columns of a table are, one by one and in order, what they should be for those fields of its
model whose type refers to no model. -/
theorem columns_specified (listed : entity ∈ (schema.interpret stamp).entities)
    (table : entity.isEnum = false) (read : schema.model? entity.name = some model) :
    List.Forall₂ (fun field column => column.Specified schema field)
      (model.fields.filter fun field =>
        (schema.model? (valueName field.type.innermost)).isNone)
      entity.columns := by
  rw [← fieldsRead_of_model table read]
  apply forall₂_columns_of_mem listed
  intro field column became
  exact specified_of_outcome became

/-- A schema with a key that is generated, a time of creation, a role with a default and a name
whose length is given twice, the second time in vain. -/
def accounts : Schema where
  declarations :=
    [.enumeration ⟨"Role", [.value "ADMIN"]⟩,
      .model ⟨"Account",
        [.field ⟨"id", .named "String",
            [⟨["id"], []⟩, ⟨["default"], [.positional (.call ["uuid"] [])]⟩]⟩,
          .field ⟨"created", .named "DateTime",
            [⟨["default"], [.positional (.call ["now"] [])]⟩]⟩,
          .field ⟨"role", .optional (.named "Role"),
            [⟨["default"], [.positional (.path ["admin"])]⟩]⟩,
          .field ⟨"name", .named "String",
            [⟨["unique"], []⟩, ⟨["db", "VarChar"], [.positional (.literal (.integer 80))]⟩,
              ⟨["db", "Text"], [.positional (.literal (.integer (-1)))]⟩]⟩,
          .field ⟨"friends", .list (.named "Account"), []⟩]⟩]

/-- The table of `accounts`. -/
def accountTable : Entity :=
  (accounts.interpretEntity (.model "Account" {})).entity

example :
    accountTable.columns =
      [{ name := "id", dbType := some "uuid", valueType := "string", primary := true
         generated := true },
        { name := "created", dbType := some "datetime", valueType := "Date"
          default := some "CURRENT_TIMESTAMP(3)" },
        { name := "role", valueType := "Role", nullable := true, default := some "Role.ADMIN"
          enumType := some "Role" },
        { name := "name", dbType := some "text", valueType := "string", unique := true
          length := some 80 }] := by
  decide +kernel

theorem columns_specified_accountTable :
    accountTable ∈ (accounts.interpret {}).entities ∧ accountTable.isEnum = false ∧
      ∃ model, accounts.model? accountTable.name = some model ∧
        List.Forall₂ (fun field column => column.Specified accounts field)
          (model.fields.filter fun field =>
            (accounts.model? (valueName field.type.innermost)).isNone)
          accountTable.columns := by
  have listed : accountTable ∈ (accounts.interpret {}).entities :=
    List.mem_cons_of_mem _ List.mem_cons_self
  exact ⟨listed, rfl, _, rfl, columns_specified listed rfl rfl⟩

end Schema

end EntityMapping
