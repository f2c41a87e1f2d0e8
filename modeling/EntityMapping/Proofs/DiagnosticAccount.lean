/-
Module: EntityMapping.Proofs.DiagnosticAccount
Purpose: An account of everything that should be reported about a schema, in order, by sort and
  place. It is drawn up from the schema alone, member by member, and says for each sort of
  diagnostic when it is due. An interpretation reports what the account lists, and nothing else.
Main exports: Finding, Expr.IsColumnList, Argument.GivesLength, Argument.MeansNothing,
  Argument.GivesIndexColumns, Attribute.fieldFindings, Field.inverseFindings,
  Attribute.modelFindings, Schema.memberFindings, Schema.diagnostics_accounted
-/
import EntityMapping.Proofs.Interpretation
import EntityMapping.Proofs.Selection

namespace EntityMapping

open Schema (Argument Attribute Declaration Expr Field Member Model)

/-! ### What is due -/

/-- What a diagnostic says without its words. -/
structure Finding where
  kind : Diagnostic.Kind
  location : Location
deriving DecidableEq, Repr

/-- The sort and the place of a diagnostic. -/
def Diagnostic.finding (diagnostic : Diagnostic) : Finding where
  kind := diagnostic.kind
  location := diagnostic.location

/-- The expression is a list, and each of its items starts with a name. -/
def Schema.Expr.IsColumnList (expression : Expr) : Prop :=
  ∃ items, expression = .array items ∧ ∀ item ∈ items, item.leadingName?.isSome

/-- The argument is a natural number that fits 32 bits, given by position. -/
inductive Schema.Argument.GivesLength : Argument → Prop where
  | integer {n : Int} (natural : 0 ≤ n) (small : n < UInt32.size) :
      GivesLength (.positional (.literal (.integer n)))

/-- The argument says nothing about a relation: it is no name by position, no list of columns where
one is due, or its name is not known. -/
inductive Schema.Argument.MeansNothing : Argument → Prop where
  | positional {expression : Expr} (noName : ∀ value, expression ≠ .literal value) :
      MeansNothing (.positional expression)
  | columns {name : String} {expression : Expr} (due : name = "fields" ∨ name = "references")
      (noList : ¬ expression.IsColumnList) : MeansNothing (.named name expression)
  | unknown {name : String} {expression : Expr}
      (other : name ∉ ["name", "fields", "references", "onDelete", "onUpdate"]) :
      MeansNothing (.named name expression)

/-- The argument lists at least one column for an index, by position or as `fields`. -/
inductive Schema.Argument.GivesIndexColumns : Argument → Prop where
  | positional {expression : Expr} (list : expression.IsColumnList)
      (nonempty : expression ≠ .array []) : GivesIndexColumns (.positional expression)
  | named {expression : Expr} (list : expression.IsColumnList)
      (nonempty : expression ≠ .array []) : GivesIndexColumns (.named "fields" expression)

/-! ### The checks decide what is due -/

section Checks

variable {expression : Expr} {arg : Argument}

theorem Schema.Expr.isSome_mapM_leadingName? (items : List Expr) :
    (items.mapM leadingName?).isSome ↔ ∀ item ∈ items, item.leadingName?.isSome := by
  induction items with
  | nil => simp
  | cons item rest ih =>
      rw [List.forall_mem_cons, ← ih, List.mapM_cons]
      cases item.leadingName? with
      | none => simp
      | some name => cases rest.mapM leadingName? <;> simp

theorem Schema.Expr.isSome_names?_iff : expression.names?.isSome ↔ expression.IsColumnList := by
  unfold IsColumnList
  cases expression with
  | array items => simp [names?, isSome_mapM_leadingName?]
  | _ => simp [names?]

theorem Schema.Expr.names?_eq_some_nil_iff :
    expression.names? = some [] ↔ expression = .array [] := by
  cases expression with
  | array items =>
      cases items with
      | nil => simp [names?]
      | cons item rest => simp [names?, List.mapM_cons, Option.bind_eq_some_iff]
  | _ => simp [names?]

theorem Schema.Expr.any_names?_iff :
    (expression.names?.any fun columns => !columns.isEmpty) ↔
      expression.IsColumnList ∧ expression ≠ .array [] := by
  rw [← isSome_names?_iff, ne_eq, ← names?_eq_some_nil_iff]
  cases expression.names? with
  | none => simp
  | some columns => cases columns <;> simp

instance : DecidablePred Expr.IsColumnList :=
  fun _ => decidable_of_iff _ Expr.isSome_names?_iff

theorem Schema.Argument.isSome_length?_iff : arg.length?.isSome ↔ arg.GivesLength := by
  constructor
  · intro given
    unfold length? at given
    split at given
    · split at given
      · rename_i bounds
        exact .integer bounds.1 bounds.2
      · simp at given
    · simp at given
  · intro gives
    cases gives with
    | @integer n natural small =>
        rw [length?, if_pos ⟨natural, small⟩]
        rfl

instance : DecidablePred Argument.GivesLength :=
  fun _ => decidable_of_iff _ Argument.isSome_length?_iff

theorem Schema.Argument.isSome_relationFault?_iff :
    arg.relationFault?.isSome ↔ arg.MeansNothing := by
  constructor
  · intro fault
    cases arg with
    | positional expression =>
        refine .positional ?_
        rintro value rfl
        simp [relationFault?] at fault
    | named name expression =>
        by_cases due : name = "fields" ∨ name = "references"
        · refine .columns due ?_
          intro list
          obtain ⟨columns, listed⟩ := Option.isSome_iff_exists.mp (Expr.isSome_names?_iff.mpr list)
          simp [relationFault?, due, listed] at fault
        · refine .unknown ?_
          intro known
          have other : name = "name" ∨ name = "onDelete" ∨ name = "onUpdate" := by
            simp only [List.mem_cons, List.not_mem_nil, or_false] at known
            tauto
          simp [relationFault?, due, other] at fault
  · intro nothing
    cases nothing with
    | @positional expression noName =>
        cases expression with
        | literal value => exact absurd rfl (noName value)
        | _ => rfl
    | @columns name expression due noList =>
        have unlisted : expression.names? = none := by
          simpa [← Expr.isSome_names?_iff] using noList
        simp [relationFault?, due, unlisted]
    | @unknown name expression other =>
        simp only [List.mem_cons, List.not_mem_nil, or_false, not_or] at other
        simp [relationFault?, other]

instance : DecidablePred Argument.MeansNothing :=
  fun _ => decidable_of_iff _ Argument.isSome_relationFault?_iff

theorem Schema.Argument.any_columns?_iff :
    (arg.columns?.any fun columns => !columns.isEmpty) ↔ arg.GivesIndexColumns := by
  constructor
  · intro given
    cases arg with
    | positional expression =>
        obtain ⟨list, nonempty⟩ := Expr.any_names?_iff.mp given
        exact .positional list nonempty
    | named name expression =>
        by_cases isFields : name = "fields"
        · subst isFields
          obtain ⟨list, nonempty⟩ := Expr.any_names?_iff.mp given
          exact .named list nonempty
        · simp [columns?, isFields] at given
  · intro gives
    cases gives with
    | positional list nonempty => exact Expr.any_names?_iff.mpr ⟨list, nonempty⟩
    | named list nonempty => exact Expr.any_names?_iff.mpr ⟨list, nonempty⟩

instance : DecidablePred Argument.GivesIndexColumns :=
  fun _ => decidable_of_iff _ Argument.any_columns?_iff

end Checks

/-! ### The account -/

namespace Schema

/-- What is due for an attribute of a field at the given place: a length that is none, and then
every argument of a relation that means nothing and two lists of columns that differ in length. -/
def Attribute.fieldFindings (place : Location) (attr : Attribute) : List Finding :=
  (if attr.mentions "db" ∧ ∃ arg ∈ attr.args.head?, ¬ arg.GivesLength then
      [⟨.invalidLength, place⟩]
    else []) ++
  if attr.mentions "relation" then
    ((attr.args.filter fun arg => arg.MeansNothing).map fun _ =>
        ⟨.unknownRelationArgument, place⟩) ++
      if (attr.columnsNamed "fields").length = (attr.columnsNamed "references").length then []
      else [⟨.unknownRelationArgument, place⟩]
  else []

/-- What is due for a field of the entity named `owner` that refers to the model `related`: that no
field leads back, or that several do. -/
def Field.inverseFindings (owner : String) (field : Field) (related : Model) : List Finding :=
  match related.fields.countP (·.type.innermost == owner) with
  | 0 => [⟨.missingInverse, .field owner field.name⟩]
  | 1 => []
  | _ => [⟨.ambiguousInverse, .field owner field.name⟩]

/-- What is due for an attribute of the model of the entity named `owner`: that it declares no
index, or no column for one. -/
def Attribute.modelFindings (owner : String) (attr : Attribute) : List Finding :=
  if attr.mentions "index" ∨ attr.mentions "unique" ∨ attr.mentions "fulltext" then
    if ∃ arg ∈ attr.args.head?, arg.GivesIndexColumns then []
    else [⟨.malformedIndex, .entity owner⟩]
  else [⟨.unrecognizedBlockAttribute, .entity owner⟩]

/-- What is due for a member of the model of the entity named `owner`. -/
def memberFindings (schema : Schema) (owner : String) : Member → List Finding
  | .field f =>
      f.attributes.flatMap (Attribute.fieldFindings (.field owner f.name)) ++
        (schema.model? (valueName f.type.innermost)).toList.flatMap (f.inverseFindings owner)
  | .modelAttribute attr => attr.modelFindings owner
  | .other => []

/-- What is due for an entity: for a table, what is due for the members of the model that its name
refers to, if it refers to one. -/
def entityFindings (schema : Schema) (entity : Entity) : List Finding :=
  if entity.isEnum then []
  else
    (schema.model? entity.name).toList.flatMap fun model =>
      model.members.flatMap (schema.memberFindings entity.name)

/-- The positions of the declarations of no known sort, from the first to the last. -/
def unknownPositions (schema : Schema) : List Nat :=
  (List.range schema.declarations.length).filter fun i =>
    schema.declarations[i]?.any fun declaration => declaration.name?.isNone

end Schema

/-! ### The reports are those of the account -/

namespace Schema

section Attributes

variable (attr : Attribute)

theorem Attribute.isSome_lengthFault?_iff :
    attr.lengthFault?.isSome ↔
      attr.mentions "db" ∧ ∃ arg ∈ attr.args.head?, ¬ arg.GivesLength := by
  unfold lengthFault?
  cases attr.mentions "db" with
  | false => simp
  | true =>
      cases attr.args.head? with
      | none => simp
      | some arg =>
          simp only [if_true, Option.bind_some, Option.mem_some_iff, exists_eq_left', true_and,
            ← Argument.isSome_length?_iff]
          cases arg.length? <;> simp

theorem Attribute.isSome_pairingFault?_iff :
    attr.pairingFault?.isSome ↔
      (attr.columnsNamed "fields").length ≠ (attr.columnsNamed "references").length := by
  unfold pairingFault?
  by_cases paired :
      (attr.columnsNamed "fields").length = (attr.columnsNamed "references").length
  · simp [paired]
  · simp [paired]

theorem Attribute.isSome_indexColumns?_iff :
    attr.indexColumns?.isSome ↔ ∃ arg ∈ attr.args.head?, arg.GivesIndexColumns := by
  unfold indexColumns?
  cases attr.args.head? with
  | none => simp
  | some arg =>
      simp only [Option.bind_some, Option.mem_some_iff, exists_eq_left',
        ← Argument.any_columns?_iff]
      cases arg.columns? with
      | none => simp
      | some columns => cases columns <;> simp

/-- What is wrong with a relation attribute, by sort and place. -/
theorem Attribute.map_const_relationFaults (finding : Finding) :
    (attr.relationFaults.map fun _ => finding) =
      ((attr.args.filter fun arg => arg.MeansNothing).map fun _ => finding) ++
        if (attr.columnsNamed "fields").length = (attr.columnsNamed "references").length then []
        else [finding] := by
  have meaningless (arg : Argument) :
      arg.relationFault?.isSome = decide arg.MeansNothing := by
    rw [Bool.eq_iff_iff, decide_eq_true_iff, Argument.isSome_relationFault?_iff]
  have unpaired := attr.isSome_pairingFault?_iff
  rw [relationFaults, List.map_append, map_const_filterMap meaningless]
  congr 1
  by_cases paired :
      (attr.columnsNamed "fields").length = (attr.columnsNamed "references").length
  · have none : attr.pairingFault? = none := by simpa [paired] using unpaired
    simp [paired, none]
  · obtain ⟨message, some⟩ := Option.isSome_iff_exists.mp (unpaired.mpr paired)
    simp [paired, some]

end Attributes

variable (owner : String)

theorem Attribute.map_finding_remarks (field : String) (attr : Attribute) :
    (attr.remarks owner field).map Diagnostic.finding =
      attr.fieldFindings (.field owner field) := by
  unfold remarks fieldFindings
  rw [List.map_append]
  congr 1
  · have misstated := attr.isSome_lengthFault?_iff
    cases fault : attr.lengthFault? with
    | none =>
        rw [fault] at misstated
        rw [if_neg (mt misstated.mpr (by simp))]
        rfl
    | some message =>
        rw [fault] at misstated
        rw [if_pos (misstated.mp rfl)]
        rfl
  · cases attr.mentions "relation" with
    | false => rfl
    | true =>
        rw [if_pos rfl, if_pos rfl, List.map_map]
        exact attr.map_const_relationFaults ⟨.unknownRelationArgument, .field owner field⟩

theorem Attribute.map_finding_modelRemarks (attr : Attribute) :
    (attr.modelRemarks owner).map Diagnostic.finding = attr.modelFindings owner := by
  have declares :
      attr.declaresIndex ↔
        attr.mentions "index" ∨ attr.mentions "unique" ∨ attr.mentions "fulltext" := by
    simp [declaresIndex]
    tauto
  have listed := attr.isSome_indexColumns?_iff
  unfold modelRemarks modelFindings
  simp only [declares, ← listed]
  split
  · cases attr.indexColumns? <;> rfl
  · rfl

theorem Field.map_finding_inverseRemarks (field : Field) (related : Model) :
    (field.inverseRemarks owner related).map Diagnostic.finding =
      field.inverseFindings owner related := by
  unfold inverseRemarks inverseFindings Model.backReferences
  rw [List.countP_eq_length_filter]
  cases related.fields.filter (·.type.innermost == owner) with
  | nil => rfl
  | cons first rest => cases rest <;> rfl

variable (schema : Schema)

theorem map_finding_memberPart (member : Member) :
    (schema.memberPart owner member).diagnostics.map Diagnostic.finding =
      schema.memberFindings owner member := by
  cases member with
  | field f =>
      simp only [memberPart, fieldPart, memberFindings, Field.annotations, inverseRemarks, target?,
        Contribution.diagnostics_append, List.map_append, List.map_flatMap,
        Attribute.map_finding_remarks]
      congr 1
      cases schema.model? (valueName f.type.innermost) with
      | none => rfl
      | some related => simp [f.map_finding_inverseRemarks owner related]
  | modelAttribute attr => exact attr.map_finding_modelRemarks owner
  | other => rfl

theorem map_finding_modelPart (model : Model) :
    (schema.modelPart owner model).diagnostics.map Diagnostic.finding =
      model.members.flatMap (schema.memberFindings owner) := by
  unfold modelPart Contribution.concat
  rw [List.map_flatMap, List.flatMap_map]
  exact congrArg (List.flatMap · model.members) (funext (schema.map_finding_memberPart owner))

theorem map_finding_entityPart (entity : Entity) :
    (schema.entityPart entity).diagnostics.map Diagnostic.finding =
      schema.entityFindings entity := by
  unfold entityPart entityFindings
  cases entity.isEnum with
  | true => rfl
  | false =>
      cases schema.model? entity.name with
      | none => rfl
      | some model => simp [schema.map_finding_modelPart entity.name model]

theorem map_finding_unrecognized :
    schema.unrecognized.map Diagnostic.finding =
      schema.unknownPositions.map fun i => ⟨.unrecognizedDeclaration, .declaration i⟩ := by
  unfold unrecognized unknownPositions
  rw [mapIdx_eq_filterMap_range, List.filterMap_filterMap, List.map_filterMap,
    ← filterMap_ite_eq_map_filter]
  congr 1
  funext i
  cases schema.declarations[i]? with
  | none => rfl
  | some declaration => cases declaration <;> rfl

/-- An interpretation reports, by sort and place, each declaration of no known sort at its position,
and then for each entity in order what is due for it; it reports nothing else. -/
theorem diagnostics_accounted (stamp : Stamp) :
    (schema.interpret stamp).diagnostics.map Diagnostic.finding =
      (schema.unknownPositions.map fun i => ⟨.unrecognizedDeclaration, .declaration i⟩) ++
        (schema.interpret stamp).entities.flatMap schema.entityFindings := by
  have reported (draft : Entity) :
      (schema.entityPart draft).diagnostics.map Diagnostic.finding =
        schema.entityFindings (schema.interpretEntity draft).entity := by
    rw [map_finding_entityPart, interpretEntity_eq]
    rfl
  rw [interpret_diagnostics, List.map_append, map_finding_unrecognized, List.map_flatMap]
  congr 1
  simp only [reported, interpret, List.flatMap_map]

end Schema

end EntityMapping
