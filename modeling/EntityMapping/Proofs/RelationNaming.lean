/-
Module: EntityMapping.Proofs.RelationNaming
Purpose: Which name the attributes of a field give to its relation, and what of them is reported.
  The last argument that should name the relation decides, also if it is no word: then the relation
  has no name, and nothing is reported. So the last name that is stated stands, and every argument
  of no use is reported, exactly when each argument that should name the relation does.
Main exports: Argument.NamesBy, Argument.StatesName, Argument.Nameless, Attribute.Unpaired,
  Draft.unknownArguments, Draft.NamesRelation, Draft.namesRelation_iff,
  Schema.namelessAuthor_not_namesRelation
-/
import EntityMapping.Proofs.DiagnosticAccount
import EntityMapping.Proofs.RelationWiring
import EntityMapping.Proofs.Remarks

namespace EntityMapping

open Schema (Argument Attribute Expr Field Literal Model)

/-! ### Names of relations -/

/-- The argument should name the relation: a literal by position, or any expression as `name`. -/
inductive Schema.Argument.NamesBy : Argument → Expr → Prop where
  | positional (value : Literal) : NamesBy (.positional (.literal value)) (.literal value)
  | named (expression : Expr) : NamesBy (.named "name" expression) expression

/-- The argument names the relation by a word. -/
def Schema.Argument.StatesName (arg : Argument) (name : String) : Prop :=
  ∃ expression, arg.NamesBy expression ∧ expression.StandsFor name

/-- The argument should name the relation, but stands for no word. -/
def Schema.Argument.Nameless (arg : Argument) : Prop :=
  ∃ expression, arg.NamesBy expression ∧ ∀ word, ¬ expression.StandsFor word

/-- The columns that the attribute lists last under `fields` and under `references` are not equally
many. -/
inductive Schema.Attribute.Unpaired (attr : Attribute) : Prop where
  | intro {fields references : List String} (own : attr.ListsLast "fields" fields)
      (foreign : attr.ListsLast "references" references)
      (differ : fields.length ≠ references.length) : Unpaired attr

/-! ### Reading names -/

section Reading

variable {arg : Argument} {expression : Expr}

/-- The expression by which an argument should name the relation. -/
def Schema.Argument.namedBy? : Argument → Option Expr
  | .positional (.literal value) => some (.literal value)
  | .positional _ => none
  | .named name expression => if name = "name" then some expression else none

theorem Schema.Argument.namedBy?_eq_some_iff (arg : Argument) (expression : Expr) :
    arg.namedBy? = some expression ↔ arg.NamesBy expression := by
  constructor
  · intro names
    cases arg with
    | positional given =>
        cases given with
        | literal value =>
            obtain rfl := Option.some.inj names
            exact NamesBy.positional value
        | _ => cases names
    | named name given =>
        obtain ⟨rfl, same⟩ := Option.ite_none_right_eq_some.mp names
        obtain rfl := Option.some.inj same
        exact NamesBy.named given
  · intro names
    cases names <;> rfl

theorem Schema.Expr.word?_eq_none_iff :
    expression.word? = none ↔ ∀ word, ¬ expression.StandsFor word := by
  simp only [← Expr.word?_eq_some_iff, Option.eq_none_iff_forall_ne_some, ne_eq]

theorem Schema.Argument.any_namedBy?_iff :
    (arg.namedBy?.any fun expression => expression.word?.isNone) ↔ arg.Nameless := by
  unfold Nameless
  simp only [← namedBy?_eq_some_iff, ← Expr.word?_eq_none_iff, Option.any_eq_true,
    Option.isNone_iff_eq_none]

instance : DecidablePred Argument.Nameless :=
  fun _ => decidable_of_iff _ Argument.any_namedBy?_iff

theorem Schema.Attribute.unpaired_iff {attr : Attribute} :
    (attr.columnsNamed "fields").length ≠ (attr.columnsNamed "references").length ↔
      attr.Unpaired := by
  constructor
  · exact Unpaired.intro (attr.listsLast_iff.mpr rfl) (attr.listsLast_iff.mpr rfl)
  · rintro ⟨own, foreign, differ⟩
    rwa [attr.listsLast_iff.mp own, attr.listsLast_iff.mp foreign]

instance : DecidablePred Attribute.Unpaired :=
  fun _ => decidable_of_iff _ Attribute.unpaired_iff

/-- An argument that should name the relation replaces the name by its word, if it has one or
not. -/
theorem RelationClause.Takes.name_eq {clause next : RelationClause}
    (takes : clause.Takes arg next) :
    next.name = (arg.namedBy?.map Expr.word?).getD clause.name := by
  cases takes with
  | literal value => rfl
  | name expression => rfl
  | onDelete expression => rfl
  | onUpdate expression => rfl
  | @positional expression noName =>
      cases expression with
      | literal value => exact absurd rfl (noName value)
      | _ => rfl
  | named noName _ _ => simp [Argument.namedBy?, noName]

/-- The name in the clause of a field is the word of the last argument that should give one. -/
theorem Schema.Field.name_clause (field : Field) :
    field.clause.name =
      (field.relationArguments.filterMap Argument.namedBy?).getLast?.bind Expr.word? := by
  have last :=
    view_foldl_eq_getLast RelationClause.name
      (fun clause arg => (clause.takes_withArgument arg).name_eq) field.relationArguments {}
  rw [field.clause_eq, last]
  cases (field.relationArguments.filterMap Argument.namedBy?).getLast? <;> rfl

theorem Schema.Field.name_clause_eq_some_iff {field : Field} {name : String} :
    field.clause.name = some name ↔
      ∃ expression, LastGiven Argument.NamesBy field.relationArguments expression ∧
        expression.StandsFor name := by
  rw [name_clause, Option.bind_eq_some_iff]
  simp only [getLast?_filterMap_eq_some_iff Argument.namedBy?_eq_some_iff,
    Expr.word?_eq_some_iff]

/-- Where no argument lacks the word for a name, the last argument that should give a name is the
last one that gives one. -/
theorem Schema.Argument.lastGiven_statesName_iff {args : List Argument} {name : String}
    (named : ∀ arg ∈ args, ¬ arg.Nameless) :
    LastGiven StatesName args name ↔
      ∃ expression, LastGiven NamesBy args expression ∧ expression.StandsFor name := by
  constructor
  · rintro ⟨before, arg, after, rfl, ⟨expression, names, stands⟩, silent⟩
    refine ⟨expression, ⟨before, arg, after, rfl, names, ?_⟩, stands⟩
    intro later hlater other namesToo
    have speaks : ∃ word, other.StandsFor word := by
      by_contra wordless
      exact named later (List.mem_append_right before (List.mem_cons_of_mem arg hlater))
        ⟨other, namesToo, not_exists.mp wordless⟩
    obtain ⟨word, standsToo⟩ := speaks
    exact silent later hlater word ⟨other, namesToo, standsToo⟩
  · rintro ⟨expression, ⟨before, arg, after, rfl, names, silent⟩, stands⟩
    refine ⟨before, arg, after, rfl, ⟨expression, names, stands⟩, ?_⟩
    rintro later hlater word ⟨other, namesToo, -⟩
    exact silent later hlater other namesToo

end Reading

/-! ### What is reported -/

section Reports

variable (owner field : String)

/-- The findings about the relation arguments of one attribute of a field. -/
theorem Schema.Attribute.count_fieldFindings (attr : Attribute) :
    (attr.fieldFindings (.field owner field)).count
        ⟨.unknownRelationArgument, .field owner field⟩ =
      if "relation" ∈ attr.path then
        (attr.args.countP fun arg => arg.MeansNothing) + if attr.Unpaired then 1 else 0
      else 0 := by
  have noLength (due : Prop) [Decidable due] :
      (if due then [(⟨.invalidLength, .field owner field⟩ : Finding)] else []).count
        ⟨.unknownRelationArgument, .field owner field⟩ = 0 := by
    split <;> simp
  rw [fieldFindings, List.count_append, noLength, Nat.zero_add, mentions_eq]
  by_cases stated : "relation" ∈ attr.path
  · rw [if_pos (by simpa using stated), if_pos stated, List.count_append, List.map_const',
      List.count_replicate_self, List.countP_eq_length_filter]
    congr 1
    by_cases unpaired : attr.Unpaired
    · rw [if_neg (Attribute.unpaired_iff.mpr unpaired), if_pos unpaired]
      simp
    · rw [if_pos (not_ne_iff.mp (mt Attribute.unpaired_iff.mp unpaired)), if_neg unpaired]
      rfl
  · rw [if_neg (by simpa using stated), if_neg stated]
    rfl

/-- The findings about the relation arguments of some attributes of a field. -/
theorem Schema.Attribute.count_remarks (attrs : List Attribute) :
    ((attrs.flatMap (Attribute.remarks owner field)).map Diagnostic.finding).count
        ⟨.unknownRelationArgument, .field owner field⟩ =
      (((attrs.filter fun attr => "relation" ∈ attr.path).flatMap Attribute.args).countP
          fun arg => arg.MeansNothing) +
        (attrs.filter fun attr => "relation" ∈ attr.path).countP fun attr => attr.Unpaired := by
  induction attrs with
  | nil => rfl
  | cons attr rest ih =>
      rw [List.flatMap_cons, List.map_append, List.count_append, ih, map_finding_remarks,
        count_fieldFindings]
      by_cases stated : "relation" ∈ attr.path
      · simp [stated, List.countP_cons]
        omega
      · simp [stated]

/-- Nothing that is reported about the inverse of a field is about its relation arguments. -/
theorem Schema.count_inverseRemarks (schema : Schema) (field : Field) :
    ((schema.inverseRemarks owner field).map Diagnostic.finding).count
        ⟨.unknownRelationArgument, .field owner field.name⟩ = 0 := by
  rw [List.count_eq_zero]
  intro reported
  obtain ⟨remark, listed, same⟩ := List.mem_map.mp reported
  have kind : remark.kind = .unknownRelationArgument := congrArg Finding.kind same
  rcases (mem_inverseRemarks listed).2 with missing | ambiguous
  · rw [missing] at kind
    cases kind
  · rw [ambiguous] at kind
    cases kind

end Reports

/-! ### The relation of a field -/

namespace Draft

/-- The number of reports about the relation arguments of a field. -/
def unknownArguments (draft : Draft) (field : String) : Nat :=
  (draft.diagnostics.map Diagnostic.finding).count
    ⟨.unknownRelationArgument, .field draft.entity.name field⟩

/-- Interpreting a field gives its relation the last name that its attributes state, and everything
of no use in them is reported. -/
structure NamesRelation (schema : Schema) (draft : Draft) (field : Field) : Prop where
  name : ∀ relation name, (draft.readField schema field).1 = .relation relation →
    (relation.relationName = some name ↔
      LastGiven Argument.StatesName field.relationArguments name)
  /-- There is a report for each argument that says nothing, for each that should name the relation
  and does not, and for each attribute with columns that have no partner. -/
  reported :
    (draft.readField schema field).2.unknownArguments field.name =
      draft.unknownArguments field.name +
        (field.relationArguments.countP fun arg => arg.MeansNothing) +
        (field.relationArguments.countP fun arg => arg.Nameless) +
        field.relationAttributes.countP fun attr => attr.Unpaired

variable {schema : Schema} {draft : Draft} {field : Field}

theorem relationName_eq_some_iff {relation : Relation} {name : String}
    (became : (draft.readField schema field).1 = .relation relation) :
    relation.relationName = some name ↔
      ∃ expression, LastGiven Argument.NamesBy field.relationArguments expression ∧
        expression.StandsFor name := by
  rw [readField_eq] at became
  have outcome : (schema.outcome draft.entity.name field).relation? = some relation :=
    congrArg FieldResult.relation? became
  rw [Schema.relation?_outcome] at outcome
  obtain ⟨related, -, rfl⟩ := Option.map_eq_some_iff.mp outcome
  exact Field.name_clause_eq_some_iff

theorem unknownArguments_readField :
    (draft.readField schema field).2.unknownArguments field.name =
      draft.unknownArguments field.name +
        (field.relationArguments.countP fun arg => arg.MeansNothing) +
        field.relationAttributes.countP fun attr => attr.Unpaired := by
  have reports := Attribute.count_remarks draft.entity.name field.name field.attributes
  have inverse := Schema.count_inverseRemarks draft.entity.name schema field
  rw [readField_eq, Nat.add_assoc]
  unfold unknownArguments Field.relationArguments Field.relationAttributes
  simp only [extend, Contribution.diagnostics_append, Field.annotations, List.map_append,
    List.count_append, reports, inverse, Nat.add_zero]

/-- Interpreting a field gives its relation the last name that its attributes state, with everything
of no use reported, exactly when each argument that should name the relation does. In any case the
name is the word of the last such argument, if it is one, and those that are none are not
reported. -/
theorem namesRelation_iff (schema : Schema) (draft : Draft) (field : Field) :
    (draft.NamesRelation schema field ↔ ∀ arg ∈ field.relationArguments, ¬ arg.Nameless) ∧
      (∀ relation name, (draft.readField schema field).1 = .relation relation →
        (relation.relationName = some name ↔
          ∃ expression, LastGiven Argument.NamesBy field.relationArguments expression ∧
            expression.StandsFor name)) ∧
      (draft.readField schema field).2.unknownArguments field.name =
        draft.unknownArguments field.name +
          (field.relationArguments.countP fun arg => arg.MeansNothing) +
          field.relationAttributes.countP fun attr => attr.Unpaired := by
  refine ⟨?_, fun relation name => relationName_eq_some_iff, unknownArguments_readField⟩
  constructor
  · intro names
    have reported := names.reported
    rw [unknownArguments_readField] at reported
    have none : (field.relationArguments.countP fun arg => arg.Nameless) = 0 := by omega
    simpa using List.countP_eq_zero.mp none
  · intro named
    constructor
    · intro relation name became
      rw [relationName_eq_some_iff became, Argument.lastGiven_statesName_iff named]
    · have none : (field.relationArguments.countP fun arg => arg.Nameless) = 0 := by
        simpa [List.countP_eq_zero] using named
      rw [unknownArguments_readField, none]
      rfl

end Draft

/-! ### A name that is taken away -/

namespace Schema

/-- A field that names its relation by a literal, and then by a list without items. -/
def namelessAuthor : Field :=
  ⟨"author", .named "User",
    [⟨["relation"], [.positional (.literal (.text "Written")), .named "name" (.array [])]⟩]⟩

/-- A schema with a model of posts that have the field. -/
def articles : Schema where
  declarations := [.model ⟨"User", []⟩, .model ⟨"Post", [.field namelessAuthor]⟩]

/-- The entity of the posts in `articles` before any member is interpreted. -/
def postDraft : Draft where
  entity := .model "Post" {}
  diagnostics := []

/-- The last name that the attributes of a field state is not always that of its relation. -/
theorem namelessAuthor_not_namesRelation :
    ¬ ∀ (schema : Schema) (draft : Draft) (field : Field), draft.NamesRelation schema field := by
  intro names
  have last : LastGiven Argument.StatesName namelessAuthor.relationArguments "Written" := by
    refine ⟨[], _, _, rfl, ⟨_, .positional _, .literal _⟩, ?_⟩
    intro later hlater word stated
    obtain rfl : later = .named "name" (.array []) := by simpa using hlater
    obtain ⟨expression, ⟨⟩, ⟨⟩⟩ := stated
  have named := ((names articles postDraft namelessAuthor).name _ "Written" rfl).mpr last
  cases named

end Schema

end EntityMapping
