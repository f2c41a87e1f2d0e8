/-
Module: EntityMapping.Proofs.IndexDeclarations
Purpose: Which of the declared indices a table has. Indices are told apart by their names, and the
  name of a declared index joins its columns with underscores. Of the declarations that come to one
  name the first stands, and so a declaration is lost if an earlier one over other columns comes to
  its name.
Main exports: Expr.Names, Argument.ListsColumns, Attribute.DeclaresIndexOn, Member.OffersIndex,
  Schema.mem_indices_iff, Member.DeclaresAlike, Entity.KeepsIndex, Schema.index_declarations_kept,
  Schema.index_declaration_lost
-/
import EntityMapping.Proofs.Interpretation
import EntityMapping.Proofs.KeyedList

namespace EntityMapping

open Schema (Argument Attribute Expr Field Member Model)

/-! ### Declarations -/

/-- The expression is a dotted name, called or not, that starts with the name of a column. -/
inductive Schema.Expr.Names : Expr → String → Prop where
  | path (column : String) (rest : List String) : Names (.path (column :: rest)) column
  | call (column : String) (rest : List String) (args : List Argument) :
      Names (.call (column :: rest) args) column

/-- The argument lists columns, by position or as `fields`. -/
inductive Schema.Argument.ListsColumns : Argument → List String → Prop where
  | positional {items : List Expr} {columns : List String}
      (names : List.Forall₂ Expr.Names items columns) :
      ListsColumns (.positional (.array items)) columns
  | named {items : List Expr} {columns : List String}
      (names : List.Forall₂ Expr.Names items columns) :
      ListsColumns (.named "fields" (.array items)) columns

/-- The attribute of a model declares an index over some columns, which its first argument lists. -/
structure Schema.Attribute.DeclaresIndexOn (attr : Attribute) (columns : List String) :
    Prop where
  path : "index" ∈ attr.path ∨ "unique" ∈ attr.path ∨ "fulltext" ∈ attr.path
  nonempty : columns ≠ []
  listed : ∃ arg rest, attr.args = arg :: rest ∧ arg.ListsColumns columns

/-- The index that the attribute declares over some columns of the entity named `owner`. -/
def Schema.Attribute.indexOn (owner : String) (attr : Attribute) (columns : List String) : Index :=
  .ofColumns owner columns (attr.mentions "unique") (attr.mentions "fulltext")

/-- The member offers an index to the entity named `owner`: a unique field one over itself, and an
attribute of the model the one that it declares. -/
inductive Schema.Member.OffersIndex (owner : String) : Member → Index → Prop where
  | unique {field : Field} {attr : Attribute} (stated : attr ∈ field.attributes)
      (named : "unique" ∈ attr.path) :
      OffersIndex owner (.field field) (.ofUniqueField owner field.name)
  | declared {attr : Attribute} {columns : List String} (declares : attr.DeclaresIndexOn columns) :
      OffersIndex owner (.modelAttribute attr) (attr.indexOn owner columns)

/-! ### Reading the declarations -/

section Reading

theorem Schema.Expr.leadingName?_eq_some_iff {expression : Expr} {column : String} :
    expression.leadingName? = some column ↔ expression.Names column := by
  constructor
  · intro leads
    cases expression with
    | path segments =>
        obtain ⟨rest, rfl⟩ := List.head?_eq_some_iff.mp leads
        exact Names.path column rest
    | call callee args =>
        obtain ⟨rest, rfl⟩ := List.head?_eq_some_iff.mp leads
        exact Names.call column rest args
    | literal value => simp [leadingName?] at leads
    | array items => simp [leadingName?] at leads
  · intro names
    cases names <;> rfl

theorem Schema.Expr.mapM_leadingName?_eq_some_iff {items : List Expr} {columns : List String} :
    items.mapM leadingName? = some columns ↔ List.Forall₂ Names items columns := by
  induction items generalizing columns with
  | nil => simp [eq_comm]
  | cons item rest ih =>
      simp only [List.mapM_cons, List.forall₂_cons_left_iff, ← ih, ← leadingName?_eq_some_iff]
      cases item.leadingName? with
      | none => simp
      | some column => cases rest.mapM leadingName? <;> simp [eq_comm]

theorem Schema.Expr.names?_eq_some_iff {expression : Expr} {columns : List String} :
    expression.names? = some columns ↔
      ∃ items, expression = .array items ∧ List.Forall₂ Names items columns := by
  cases expression with
  | array items => simp [names?, mapM_leadingName?_eq_some_iff]
  | _ => simp [names?]

theorem Schema.Argument.columns?_eq_some_iff {arg : Argument} {columns : List String} :
    arg.columns? = some columns ↔ arg.ListsColumns columns := by
  constructor
  · intro lists
    cases arg with
    | positional expression =>
        obtain ⟨items, rfl, names⟩ := Expr.names?_eq_some_iff.mp lists
        exact ListsColumns.positional names
    | named name expression =>
        obtain ⟨rfl, lists⟩ := Option.ite_none_right_eq_some.mp lists
        obtain ⟨items, rfl, names⟩ := Expr.names?_eq_some_iff.mp lists
        exact ListsColumns.named names
  · intro lists
    cases lists with
    | positional names => exact Expr.names?_eq_some_iff.mpr ⟨_, rfl, names⟩
    | named names => exact Expr.names?_eq_some_iff.mpr ⟨_, rfl, names⟩

namespace Schema.Attribute

variable {attr : Attribute} {columns : List String}

theorem indexColumns?_eq_some_iff :
    attr.indexColumns? = some columns ↔
      columns ≠ [] ∧ ∃ arg rest, attr.args = arg :: rest ∧ arg.ListsColumns columns := by
  unfold indexColumns?
  cases attr.args with
  | nil => simp
  | cons arg rest =>
      have lists :
          (∃ first others, arg :: rest = first :: others ∧ first.ListsColumns columns) ↔
            arg.columns? = some columns := by
        simp [Argument.columns?_eq_some_iff]
      rw [lists, List.head?_cons, Option.bind_some]
      cases arg.columns? with
      | none => simp
      | some listed =>
          cases listed with
          | nil => simp [eq_comm]
          | cons column others =>
              refine (and_iff_right_of_imp ?_).symm
              intro same
              simp [← Option.some.inj same]

theorem declaresIndex_iff :
    attr.declaresIndex = true ↔
      "index" ∈ attr.path ∨ "unique" ∈ attr.path ∨ "fulltext" ∈ attr.path := by
  simp only [declaresIndex, Bool.or_eq_true, mentions_iff]
  tauto

theorem declaresIndexOn_iff :
    attr.DeclaresIndexOn columns ↔
      attr.declaresIndex = true ∧ attr.indexColumns? = some columns := by
  rw [declaresIndex_iff, indexColumns?_eq_some_iff]
  constructor
  · rintro ⟨path, nonempty, listed⟩
    exact ⟨path, nonempty, listed⟩
  · rintro ⟨path, nonempty, listed⟩
    exact ⟨path, nonempty, listed⟩

theorem DeclaresIndexOn.unique {other : List String} (declares : attr.DeclaresIndexOn columns)
    (again : attr.DeclaresIndexOn other) : other = columns := by
  have same := (declaresIndexOn_iff.mp again).2
  rw [(declaresIndexOn_iff.mp declares).2] at same
  exact (Option.some.inj same).symm

theorem mem_keyIndices_iff {owner field : String} {index : Index} :
    index ∈ attr.keyIndices owner field ↔
      "unique" ∈ attr.path ∧ .ofUniqueField owner field = index := by
  rw [← mentions_iff, keyIndices]
  cases attr.mentions "unique" <;> simp [eq_comm (b := index)]

theorem mem_modelIndices_iff {owner : String} {index : Index} :
    index ∈ attr.modelIndices owner ↔
      ∃ columns, attr.DeclaresIndexOn columns ∧ attr.indexOn owner columns = index := by
  simp only [declaresIndexOn_iff]
  unfold modelIndices indexOn
  cases attr.declaresIndex <;> simp

end Schema.Attribute

namespace Schema

variable {owner : String} {member : Member} {index : Index}

theorem mem_memberPart_indices_iff (schema : Schema) :
    index ∈ (schema.memberPart owner member).indices ↔ member.OffersIndex owner index := by
  cases member with
  | field f =>
      simp only [memberPart, fieldPart, Contribution.indices_append, Field.annotations,
        List.append_nil, List.mem_flatMap, Attribute.mem_keyIndices_iff]
      constructor
      · rintro ⟨attr, stated, named, rfl⟩
        exact Member.OffersIndex.unique stated named
      · rintro (⟨stated, named⟩ | _)
        exact ⟨_, stated, named, rfl⟩
  | modelAttribute attr =>
      show index ∈ attr.modelIndices owner ↔ _
      rw [Attribute.mem_modelIndices_iff]
      constructor
      · rintro ⟨columns, declares, rfl⟩
        exact Member.OffersIndex.declared declares
      · rintro (_ | declares)
        exact ⟨_, declares, rfl⟩
  | other =>
      apply iff_of_false
      · exact List.not_mem_nil
      · rintro ⟨⟩

/-- A member offers one index at most. -/
theorem Member.OffersIndex.eq {other : Index} (offers : member.OffersIndex owner index)
    (again : member.OffersIndex owner other) : other = index := by
  cases offers with
  | unique => cases again; rfl
  | declared declares =>
      cases again with
      | declared declaresToo => rw [declares.unique declaresToo]

end Schema

end Reading

/-! ### Names of indices -/

namespace Index

variable {owner : String}

/-- The name of a declared index says what its columns are when they are joined. -/
theorem ofColumns_name_eq_iff {columns : List String} {u f : Bool} {joined : String} :
    (ofColumns owner columns u f).name = owner ++ "_" ++ joined ++ "_idx" ↔
      "_".intercalate columns = joined := by
  unfold ofColumns
  rw [String.append_left_inj, String.append_right_inj]

theorem ofUniqueField_name_inj {field other : String} :
    (ofUniqueField owner field).name = (ofUniqueField owner other).name ↔ field = other := by
  unfold ofUniqueField
  rw [String.append_left_inj, String.append_right_inj]

/-- The name of a declared index is not that of a unique field. -/
theorem ofUniqueField_name_ne {field start : String} :
    (ofUniqueField owner field).name ≠ start ++ "_idx" := by
  intro same
  have lasts := congrArg (fun name => name.toList.reverse.head?) same
  simp [ofUniqueField] at lasts

end Index

/-- Columns whose names have no underscore are the only such columns with their joined names. -/
theorem intercalate_inj_of_no_underscore {columns others : List String} (nonempty : columns ≠ [])
    (nonemptyToo : others ≠ []) (apart : ∀ column ∈ columns ++ others, '_' ∉ column.toList)
    (same : "_".intercalate columns = "_".intercalate others) : columns = others := by
  have split : ∀ names : List String, names ≠ [] → (∀ name ∈ names, '_' ∉ name.toList) →
      ("_".intercalate names).toList.splitOn '_' = names.map String.toList := by
    intro names nonempty apart
    rw [String.toList_intercalate]
    apply List.splitOn_intercalate
    · simpa using apart
    · simpa using nonempty
  have letters : columns.map String.toList = others.map String.toList := by
    rw [← split columns nonempty fun column h => apart column (List.mem_append_left others h),
      ← split others nonemptyToo fun column h => apart column (List.mem_append_right columns h),
      same]
  exact List.map_injective_iff.mpr (fun _ _ => String.toList_inj.mp) letters

/-! ### The indices of a table -/

namespace Schema

variable {schema : Schema} {stamp : Stamp} {entity : Entity} {model : Model} {member : Member}
  {index : Index}

section Table

variable (listed : entity ∈ (schema.interpret stamp).entities) (table : entity.isEnum = false)
  (read : schema.model? entity.name = some model)

include listed table read

/-- A table takes in the indices that the members of its model offer, the first of each name. -/
theorem indices_of_mem :
    entity.indices =
      appendEachNew Index.name []
        (model.members.flatMap fun member => (schema.memberPart entity.name member).indices) := by
  rcases enumeration_or_table_of_mem listed with ⟨e, rfl⟩ | ⟨_, extended⟩
  · cases table
  · rw [entityPart_of_model schema entity table read] at extended
    rw [← List.flatMap_map]
    exact congrArg Entity.indices extended

/-- The indices of a table are those that are offered first under their names. -/
theorem mem_indices_iff :
    index ∈ entity.indices ↔
      FirstGiven (fun member offered =>
          member.OffersIndex entity.name offered ∧ offered.name = index.name)
        model.members index := by
  rw [indices_of_mem listed table read, mem_appendEachNew_iff, List.find?_flatMap]
  apply findSome?_eq_some_iff_firstGiven
  intro member offered
  simp only [← mem_memberPart_indices_iff schema]
  constructor
  · intro found
    exact ⟨List.mem_of_find?_eq_some found, by simpa using List.find?_some found⟩
  · rintro ⟨hoffered, named⟩
    -- Whatever is found has the name too, and a member offers one index only.
    have exists_found : ((schema.memberPart entity.name member).indices.find? fun i =>
        i.name == index.name).isSome := by
      rw [List.find?_isSome]
      exact ⟨offered, hoffered, by simp [named]⟩
    obtain ⟨other, found⟩ := Option.isSome_iff_exists.mp exists_found
    have same : offered = other :=
      ((mem_memberPart_indices_iff schema).mp (List.mem_of_find?_eq_some found)).eq
        ((mem_memberPart_indices_iff schema).mp hoffered)
    rw [found, same]

/-- Some index of the table has the name of an index that is offered. -/
theorem exists_index_of_offered (declared : member ∈ model.members)
    (offers : member.OffersIndex entity.name index) :
    ∃ first ∈ entity.indices, first.name = index.name ∧
      ∃ giver ∈ model.members, giver.OffersIndex entity.name first := by
  have exists_first : ∃ first, FirstGiven (fun member offered =>
      member.OffersIndex entity.name offered ∧ offered.name = index.name) model.members first :=
    exists_firstGiven ⟨member, declared, index, offers, rfl⟩
  obtain ⟨first, given⟩ := exists_first
  obtain ⟨giver, hgiver, offersFirst, named⟩ := given.mem
  refine ⟨first, ?_, named, giver, hgiver, offersFirst⟩
  rw [mem_indices_iff listed table read, named]
  exact given

theorem nodup_name_indices : (entity.indices.map Index.name).Nodup := by
  rw [indices_of_mem listed table read]
  exact nodup_appendEachNew _ List.nodup_nil

/-- A table has one index of a name, and has it once. -/
theorem filter_name_indices (kept : index ∈ entity.indices) :
    entity.indices.filter (fun other => other.name == index.name) = [index] :=
  filter_key_eq_singleton (nodup_name_indices listed table read) kept

theorem index_eq_of_name {other : Index} (kept : index ∈ entity.indices)
    (keptToo : other ∈ entity.indices) (same : other.name = index.name) : other = index :=
  List.inj_on_of_nodup_map (nodup_name_indices listed table read) keptToo kept same

end Table

end Schema

/-! ### What becomes of a declaration -/

/-- The member declares an index over columns whose joined names are those of the given ones. -/
inductive Schema.Member.DeclaresAlike (owner : String) (columns : List String) :
    Member → Index → Prop where
  | declared {attr : Attribute} {others : List String} (declares : attr.DeclaresIndexOn others)
      (alike : "_".intercalate others = "_".intercalate columns) :
      DeclaresAlike owner columns (.modelAttribute attr) (attr.indexOn owner others)

/-- What becomes of a declaration over some columns in the table of the model. -/
structure Entity.KeepsIndex (entity : Entity) (model : Model) (columns : List String)
    (index : Index) : Prop where
  kept : index ∈ entity.indices
  name : index.name = entity.name ++ "_" ++ "_".intercalate columns ++ "_idx"
  /-- It is the first index that is declared over columns with these joined names. -/
  first : FirstGiven (Member.DeclaresAlike entity.name columns) model.members index
  /-- The table has no other index of its name, and has it once. -/
  alone : entity.indices.filter (fun other => other.name == index.name) = [index]
  /-- The table has an index over just the columns exactly when that first declaration is over them
  or they are one unique field. -/
  overColumns : (∃ other ∈ entity.indices, other.columns = columns) ↔
    index.columns = columns ∨
      ∃ field ∈ model.fields, columns = [field.name] ∧
        ∃ attr ∈ field.attributes, "unique" ∈ attr.path
  /-- Without underscores in the names of columns, that first declaration is over them. -/
  apart : (∀ column ∈ columns ++ index.columns, '_' ∉ column.toList) → index.columns = columns

namespace Schema

variable {schema : Schema} {stamp : Stamp} {entity : Entity} {model : Model} {attr : Attribute}
  {columns : List String}

theorem declaresAlike_iff {owner : String} {member : Member} {index : Index} :
    member.DeclaresAlike owner columns index ↔
      member.OffersIndex owner index ∧
        index.name = owner ++ "_" ++ "_".intercalate columns ++ "_idx" := by
  constructor
  · rintro ⟨declares, alike⟩
    exact ⟨.declared declares, Index.ofColumns_name_eq_iff.mpr alike⟩
  · rintro ⟨offers, named⟩
    cases offers with
    | unique => exact absurd named Index.ofUniqueField_name_ne
    | declared declares => exact .declared declares (Index.ofColumns_name_eq_iff.mp named)

/-- Among columns without underscores, a declaration that comes to the joined names of some columns
is over those columns. -/
theorem Member.DeclaresAlike.columns_eq {owner : String} {member : Member} {index : Index}
    (alike : member.DeclaresAlike owner columns index) (nonempty : columns ≠ [])
    (apart : ∀ column ∈ columns ++ index.columns, '_' ∉ column.toList) :
    index.columns = columns := by
  cases alike with
  | declared declares alike =>
      exact (intercalate_inj_of_no_underscore nonempty declares.nonempty apart alike.symm).symm

section Table

variable {index : Index} (listed : entity ∈ (schema.interpret stamp).entities)
  (table : entity.isEnum = false) (read : schema.model? entity.name = some model)

include listed table read

/-- A table has the index of each of its unique fields. -/
theorem ofUniqueField_mem {field : Field} (declared : field ∈ model.fields)
    (unique : ∃ attr ∈ field.attributes, "unique" ∈ attr.path) :
    .ofUniqueField entity.name field.name ∈ entity.indices := by
  obtain ⟨attr, stated, named⟩ := unique
  obtain ⟨member, hmember, isField⟩ := List.mem_filterMap.mp declared
  obtain rfl : member = .field field := by
    cases member <;> simp_all [Member.field?]
  obtain ⟨index, kept, sameName, giver, -, offers⟩ :=
    exists_index_of_offered listed table read hmember (.unique stated named)
  cases offers with
  | unique => rwa [← Index.ofUniqueField_name_inj.mp sameName]
  | declared => exact absurd sameName.symm Index.ofUniqueField_name_ne

/-- The indices over some columns are the one that is declared under their name, if it is over them,
and those of unique fields. -/
theorem exists_index_over_iff (kept : index ∈ entity.indices)
    (name : index.name = entity.name ++ "_" ++ "_".intercalate columns ++ "_idx") :
    (∃ other ∈ entity.indices, other.columns = columns) ↔
      index.columns = columns ∨
        ∃ field ∈ model.fields, columns = [field.name] ∧
          ∃ attr ∈ field.attributes, "unique" ∈ attr.path := by
  constructor
  · rintro ⟨other, keptToo, rfl⟩
    obtain ⟨member, declared, offers, -⟩ := ((mem_indices_iff listed table read).mp keptToo).mem
    cases offers with
    | @unique field attr stated named =>
        right
        exact ⟨field, List.mem_filterMap.mpr ⟨_, declared, rfl⟩, rfl, attr, stated, named⟩
    | declared =>
        left
        rw [index_eq_of_name listed table read kept keptToo name.symm]
  · rintro (same | ⟨field, declared, rfl, unique⟩)
    · exact ⟨index, kept, same⟩
    · exact ⟨_, ofUniqueField_mem listed table read declared unique, rfl⟩

/-- Every declaration over some columns has an index of its name in the table, which is the first
that is declared under the name. -/
theorem index_declarations_kept (declared : .modelAttribute attr ∈ model.members)
    (declares : attr.DeclaresIndexOn columns) :
    ∃ index, entity.KeepsIndex model columns index := by
  obtain ⟨index, kept, name, -⟩ :=
    exists_index_of_offered listed table read declared (.declared declares)
  have named (member : Member) (offered : Index) :
      member.DeclaresAlike entity.name columns offered ↔
        member.OffersIndex entity.name offered ∧ offered.name = index.name := by
    rw [declaresAlike_iff, name]
    rfl
  have first : FirstGiven (Member.DeclaresAlike entity.name columns) model.members index := by
    simpa only [FirstGiven, named] using (mem_indices_iff listed table read).mp kept
  obtain ⟨member, -, alike⟩ := first.mem
  refine ⟨index, ?_⟩
  constructor
  · exact kept
  · exact name
  · exact first
  · exact filter_name_indices listed table read kept
  · exact exists_index_over_iff listed table read kept name
  · intro apart
    exact alike.columns_eq declares.nonempty apart

end Table

/-! ### A declaration that is lost -/

/-- A schema with a model that declares an index over a column and one over two columns with the
same joined names. -/
def logins : Schema where
  declarations :=
    [.model ⟨"Login",
      [.modelAttribute ⟨["index"], [.positional (.array [.path ["user_id"]])]⟩,
        .modelAttribute ⟨["index"], [.positional (.array [.path ["user"], .path ["id"]])]⟩]⟩]

/-- The table of `logins`. -/
def loginTable : Entity :=
  (logins.interpretEntity (.model "Login" {})).entity

theorem loginTable_mem : loginTable ∈ (logins.interpret {}).entities :=
  List.mem_cons_self

theorem logins_declare :
    Attribute.DeclaresIndexOn ⟨["index"], [.positional (.array [.path ["user"], .path ["id"]])]⟩
      ["user", "id"] := by
  constructor
  · simp
  · simp
  · exact ⟨_, [], rfl, .positional (.cons (.path "user" []) (.cons (.path "id" []) .nil))⟩

theorem index_declarations_kept_loginTable :
    loginTable ∈ (logins.interpret {}).entities ∧ loginTable.isEnum = false ∧
      ∃ model attr, logins.model? loginTable.name = some model ∧
        .modelAttribute attr ∈ model.members ∧ attr.DeclaresIndexOn ["user", "id"] ∧
        ∃ index, loginTable.KeepsIndex model ["user", "id"] index :=
  ⟨loginTable_mem, rfl, _, _, rfl, List.mem_cons_of_mem _ List.mem_cons_self, logins_declare,
    index_declarations_kept loginTable_mem rfl rfl (List.mem_cons_of_mem _ List.mem_cons_self)
      logins_declare⟩

/-- Not every declaration over some columns leads to an index over them. -/
theorem index_declaration_lost :
    ¬ ∀ (schema : Schema) (stamp : Stamp) (entity : Entity) (model : Model) (attr : Attribute)
      (columns : List String), entity ∈ (schema.interpret stamp).entities →
        entity.isEnum = false → schema.model? entity.name = some model →
        .modelAttribute attr ∈ model.members → attr.DeclaresIndexOn columns →
        ∃ index ∈ entity.indices, index.columns = columns := by
  intro kept
  have both : ∃ index ∈ loginTable.indices, index.columns = ["user", "id"] :=
    kept logins {} loginTable _ _ _ loginTable_mem rfl rfl
      (List.mem_cons_of_mem _ List.mem_cons_self) logins_declare
  exact absurd both (by decide +kernel)

end Schema

end EntityMapping
