/-
Module: EntityMapping.Proofs.RelationWiring
Purpose: How a relation is wired, said of the attributes of its field without running through them.
  Each relation attribute joins the columns that it lists last under `fields` and under
  `references`, pair by pair, and the pairs of all of them follow one another. The actions on delete
  and on update are the ones stated last, wherever they are stated.
Main exports: Argument.Lists, Attribute.ListsLast, Attribute.Joins, ReferentialAction.table,
  Expr.NamesAction, Argument.StatesAction, Argument.LastAction, Relation.WiredBy,
  Schema.relations_wired
-/
import EntityMapping.Proofs.ColumnReference
import EntityMapping.Proofs.FieldClause
import EntityMapping.Proofs.IndexDeclarations

namespace EntityMapping

open Schema (Argument Attribute Expr Field Model)

/-! ### What the attributes say -/

/-- The argument lists columns under the given name. -/
inductive Schema.Argument.Lists (name : String) : Argument → List String → Prop where
  | intro {items : List Expr} {columns : List String}
      (names : List.Forall₂ Expr.Names items columns) :
      Lists name (.named name (.array items)) columns

/-- The columns that the attribute lists last under a name. Without any list there are none. -/
inductive Schema.Attribute.ListsLast (attr : Attribute) (name : String) : List String → Prop where
  | given {columns : List String} (last : LastGiven (Argument.Lists name) attr.args columns) :
      ListsLast attr name columns
  | missing (unlisted : ∀ arg ∈ attr.args, ∀ columns, ¬ arg.Lists name columns) :
      ListsLast attr name []

/-- The attribute joins columns: those under `fields` and those under `references`, pair by pair.
Columns without a partner are left out. -/
inductive Schema.Attribute.Joins (attr : Attribute) : List JoinColumn → Prop where
  | paired {fields references : List String} (own : attr.ListsLast "fields" fields)
      (foreign : attr.ListsLast "references" references) :
      Joins attr (List.zipWith JoinColumn.mk fields references)

/-- The referential actions with their names in a schema. -/
def ReferentialAction.table : List (String × ReferentialAction) :=
  [("NoAction", .noAction), ("Restrict", .restrict), ("Cascade", .cascade),
    ("SetNull", .setNull), ("SetDefault", .setDefault)]

/-- The expression names an action. A word that is no action's name, and what is no word at all,
stand for no action. -/
inductive Schema.Expr.NamesAction (expression : Expr) : ReferentialAction → Prop where
  | known {word : String} {action : ReferentialAction} (stands : expression.StandsFor word)
      (entry : (word, action) ∈ ReferentialAction.table) : NamesAction expression action
  | unknown {word : String} (stands : expression.StandsFor word)
      (missing : word ∉ ReferentialAction.table.map Prod.fst) : NamesAction expression .noAction
  | wordless (silent : ∀ word, ¬ expression.StandsFor word) : NamesAction expression .noAction

/-- The argument of the given name states an action. -/
inductive Schema.Argument.StatesAction (name : String) : Argument → ReferentialAction → Prop where
  | intro {expression : Expr} {action : ReferentialAction}
      (names : expression.NamesAction action) :
      StatesAction name (.named name expression) action

/-- The action that the last argument of a name states, if there is such an argument. -/
inductive Schema.Argument.LastAction (name : String) (args : List Argument) :
    Option ReferentialAction → Prop where
  | stated {action : ReferentialAction}
      (last : LastGiven (Argument.StatesAction name) args action) :
      LastAction name args (some action)
  | unstated (absent : ∀ arg ∈ args, ∀ expression, arg ≠ .named name expression) :
      LastAction name args none

/-- The argument is about what happens on delete or on update. -/
def Schema.Argument.StatesRule (arg : Argument) : Prop :=
  ∃ expression, arg = .named "onDelete" expression ∨ arg = .named "onUpdate" expression

/-- The relation is wired as the attributes of its field say. -/
structure Relation.WiredBy (field : Field) (relation : Relation) : Prop where
  fieldName : relation.fieldName = field.name
  /-- The columns of different attributes are not paired with each other. -/
  joinColumns : ∃ pairs, List.Forall₂ Attribute.Joins field.relationAttributes pairs ∧
    relation.joinColumns = pairs.flatten
  rules : relation.rules.isSome ↔ ∃ arg ∈ field.relationArguments, arg.StatesRule
  onDelete : ∀ rules, relation.rules = some rules →
    Argument.LastAction "onDelete" field.relationArguments rules.onDelete
  onUpdate : ∀ rules, relation.rules = some rules →
    Argument.LastAction "onUpdate" field.relationArguments rules.onUpdate
  unwired : (∀ attr ∈ field.attributes, "relation" ∉ attr.path) →
    relation.joinColumns = [] ∧ relation.rules = none

/-! ### Columns -/

section Columns

theorem Schema.Argument.columnsNamed?_eq_some_iff {name : String} (arg : Argument)
    (columns : List String) : arg.columnsNamed? name = some columns ↔ arg.Lists name columns := by
  constructor
  · intro lists
    cases arg with
    | positional expression => cases lists
    | named given expression =>
        obtain ⟨rfl, names⟩ := Option.ite_none_right_eq_some.mp lists
        obtain ⟨items, rfl, named⟩ := Expr.names?_eq_some_iff.mp names
        exact Lists.intro named
  · intro lists
    cases lists with
    | intro names =>
        rw [columnsNamed?, if_pos rfl]
        exact Expr.names?_eq_some_iff.mpr ⟨_, rfl, names⟩

namespace Schema.Attribute

variable (attr : Attribute)

theorem listsLast_iff {name : String} {columns : List String} :
    attr.ListsLast name columns ↔ attr.columnsNamed name = columns := by
  unfold columnsNamed
  constructor
  · intro lists
    cases lists with
    | given last =>
        rw [(getLast?_filterMap_eq_some_iff Argument.columnsNamed?_eq_some_iff).mpr last]
        rfl
    | missing unlisted =>
        rw [(getLast?_filterMap_eq_none_iff Argument.columnsNamed?_eq_some_iff).mpr unlisted]
        rfl
  · rintro rfl
    cases given : (attr.args.filterMap (Argument.columnsNamed? name)).getLast? with
    | none =>
        exact ListsLast.missing
          ((getLast?_filterMap_eq_none_iff Argument.columnsNamed?_eq_some_iff).mp given)
    | some columns =>
        exact ListsLast.given
          ((getLast?_filterMap_eq_some_iff Argument.columnsNamed?_eq_some_iff).mp given)

theorem joins_joins : attr.Joins attr.joins :=
  Joins.paired (attr.listsLast_iff.mpr rfl) (attr.listsLast_iff.mpr rfl)

end Schema.Attribute

end Columns

/-! ### Actions -/

namespace ReferentialAction

theorem ofWord_of_mem : ∀ entry ∈ table, ofWord entry.1 = entry.2 := by
  decide

theorem ofWord_of_not_mem {word : String} (missing : word ∉ table.map Prod.fst) :
    ofWord word = .noAction := by
  simp only [table, List.map_cons, List.map_nil, List.mem_cons, List.not_mem_nil, or_false,
    not_or] at missing
  simp [ofWord, missing]

theorem ofExpr_eq_iff {expression : Expr} {action : ReferentialAction} :
    ofExpr expression = action ↔ expression.NamesAction action := by
  constructor
  · rintro rfl
    cases stands : expression.word? with
    | none =>
        have none : ofExpr expression = .noAction := by rw [ofExpr, stands]
        rw [none]
        refine Expr.NamesAction.wordless ?_
        intro word standsFor
        rw [Expr.word?_eq_some_iff.mpr standsFor] at stands
        cases stands
    | some word =>
        have same : ofExpr expression = ofWord word := by rw [ofExpr, stands]
        have standsFor : expression.StandsFor word := Expr.word?_eq_some_iff.mp stands
        rw [same]
        by_cases known : word ∈ table.map Prod.fst
        · obtain ⟨entry, listed, rfl⟩ := List.mem_map.mp known
          refine Expr.NamesAction.known standsFor ?_
          rw [ofWord_of_mem entry listed]
          exact listed
        · rw [ofWord_of_not_mem known]
          exact Expr.NamesAction.unknown standsFor known
  · intro names
    cases names with
    | known stands entry =>
        rw [ofExpr, Expr.word?_eq_some_iff.mpr stands]
        exact ofWord_of_mem _ entry
    | unknown stands missing =>
        rw [ofExpr, Expr.word?_eq_some_iff.mpr stands]
        exact ofWord_of_not_mem missing
    | wordless silent =>
        have none : expression.word? = none := by
          rw [Option.eq_none_iff_forall_ne_some]
          intro word stands
          exact silent word (Expr.word?_eq_some_iff.mp stands)
        rw [ofExpr, none]

end ReferentialAction

namespace Schema.Argument

/-- The action that an argument of the given name states. -/
def action? (name : String) : Argument → Option ReferentialAction
  | .named given expression => if given = name then some (.ofExpr expression) else none
  | .positional _ => none

theorem action?_eq_some_iff {name : String} (arg : Argument) (action : ReferentialAction) :
    arg.action? name = some action ↔ arg.StatesAction name action := by
  constructor
  · intro states
    cases arg with
    | positional expression => cases states
    | named given expression =>
        obtain ⟨rfl, same⟩ := Option.ite_none_right_eq_some.mp states
        exact StatesAction.intro (ReferentialAction.ofExpr_eq_iff.mp (Option.some.inj same))
  · intro states
    cases states with
    | intro names =>
        rw [action?, if_pos rfl]
        exact congrArg some (ReferentialAction.ofExpr_eq_iff.mpr names)

/-- The last action that some arguments state under a name is that of the last argument of the
name. -/
theorem lastAction_getLast? (name : String) (args : List Argument) :
    LastAction name args (args.filterMap (action? name)).getLast? := by
  cases given : (args.filterMap (action? name)).getLast? with
  | some action =>
      exact LastAction.stated ((getLast?_filterMap_eq_some_iff action?_eq_some_iff).mp given)
  | none =>
      have silent := (getLast?_filterMap_eq_none_iff action?_eq_some_iff).mp given
      refine LastAction.unstated ?_
      rintro arg listed expression rfl
      exact silent _ listed _ (StatesAction.intro (ReferentialAction.ofExpr_eq_iff.mp rfl))

end Schema.Argument

namespace RelationClause

variable {clause next : RelationClause} {arg : Argument}

/-! #### One argument -/

theorem Takes.onDelete_eq (takes : clause.Takes arg next) :
    next.rules.bind ReferentialRules.onDelete =
      ((arg.action? "onDelete").map some).getD (clause.rules.bind ReferentialRules.onDelete) := by
  cases takes with
  | onUpdate expression =>
      cases ruled : clause.rules <;> simp [Argument.action?, RelationClause.onUpdate, ruled]
  | positional noName => rfl
  | named _ noDelete _ => simp [Argument.action?, noDelete]
  | _ => simp [Argument.action?, RelationClause.onDelete]

theorem Takes.onUpdate_eq (takes : clause.Takes arg next) :
    next.rules.bind ReferentialRules.onUpdate =
      ((arg.action? "onUpdate").map some).getD (clause.rules.bind ReferentialRules.onUpdate) := by
  cases takes with
  | onDelete expression =>
      cases ruled : clause.rules <;> simp [Argument.action?, RelationClause.onDelete, ruled]
  | positional noName => rfl
  | named _ _ noUpdate => simp [Argument.action?, noUpdate]
  | _ => simp [Argument.action?, RelationClause.onUpdate]

theorem Takes.isSome_rules_iff (takes : clause.Takes arg next) :
    next.rules.isSome ↔ clause.rules.isSome ∨ arg.StatesRule := by
  unfold Argument.StatesRule
  cases takes with
  | onDelete expression => simp [RelationClause.onDelete]
  | onUpdate expression => simp [RelationClause.onUpdate]
  | named _ noDelete noUpdate => simp [noDelete, noUpdate]
  | _ => simp

/-! #### A row of arguments -/

theorem isSome_rules_foldl (args : List Argument) (clause : RelationClause) :
    (args.foldl withArgument clause).rules.isSome ↔
      clause.rules.isSome ∨ ∃ arg ∈ args, arg.StatesRule := by
  induction args generalizing clause with
  | nil => simp
  | cons arg rest ih =>
      rw [List.foldl_cons, ih, (clause.takes_withArgument arg).isSome_rules_iff, or_assoc]
      simp

/-- What an action is after some arguments, if each of them states it or lets it be. -/
theorem lastAction_foldl {name : String} {action : ReferentialRules → Option ReferentialAction}
    (states : ∀ {clause next : RelationClause} {arg : Argument}, clause.Takes arg next →
      next.rules.bind action = ((arg.action? name).map some).getD (clause.rules.bind action))
    {args : List Argument} {rules : ReferentialRules}
    (reached : (args.foldl withArgument {}).rules = some rules) :
    Argument.LastAction name args (action rules) := by
  have last :=
    view_foldl_eq_getLast (fun clause : RelationClause => clause.rules.bind action)
      (fun clause arg => states (clause.takes_withArgument arg)) args {}
  have same : action rules = (args.filterMap (Argument.action? name)).getLast? := by
    rw [reached] at last
    cases given : (args.filterMap (Argument.action? name)).getLast? with
    | none => simpa [given] using last
    | some other => simpa [given] using last
  rw [same]
  exact Argument.lastAction_getLast? name args

end RelationClause

/-! ### Relations -/

/-- The relation of a field to a model is wired by the attributes of the field. -/
theorem Schema.Field.relationTo_wired (owner : String) (related : Model) (field : Field) :
    (field.relationTo owner related field.clause).WiredBy field := by
  have joined : (field.relationTo owner related field.clause).joinColumns =
      field.relationAttributes.flatMap Attribute.joins := by
    show field.clause.joinColumns = _
    rw [field.clause_eq]
  have ruled : (field.relationTo owner related field.clause).rules =
      (field.relationArguments.foldl RelationClause.withArgument {}).rules := by
    show field.clause.rules = _
    rw [field.clause_eq]
  constructor
  case fieldName => rfl
  case joinColumns =>
    refine ⟨field.relationAttributes.map Attribute.joins, ?_, ?_⟩
    · rw [List.forall₂_map_right_iff, List.forall₂_same]
      exact fun attr _ => attr.joins_joins
    · rw [joined, List.flatMap_def]
  case rules =>
    rw [ruled, RelationClause.isSome_rules_foldl]
    simp
  case onDelete =>
    intro rules reached
    rw [ruled] at reached
    exact RelationClause.lastAction_foldl RelationClause.Takes.onDelete_eq reached
  case onUpdate =>
    intro rules reached
    rw [ruled] at reached
    exact RelationClause.lastAction_foldl RelationClause.Takes.onUpdate_eq reached
  case unwired =>
    intro none
    have noAttributes : field.relationAttributes = [] := by
      simpa [relationAttributes] using none
    rw [joined, ruled, relationArguments, noAttributes]
    exact ⟨rfl, rfl⟩

namespace Schema

variable {schema : Schema} {stamp : Stamp} {entity : Entity} {model : Model}

/-- The relations of a table are wired, one by one and in order, by the attributes of those fields
of its model whose type refers to a model. -/
theorem relations_wired (listed : entity ∈ (schema.interpret stamp).entities)
    (table : entity.isEnum = false) (read : schema.model? entity.name = some model) :
    List.Forall₂ (fun field relation => relation.WiredBy field)
      (model.fields.filter fun field =>
        (schema.model? (valueName field.type.innermost)).isSome)
      entity.relations := by
  apply forall₂_relations_of_mem listed table read
  intro field other _
  exact field.relationTo_wired entity.name other

/-! ### Orders -/

/-- A schema with a field that has two relation attributes. The first lists more fields than
references, and then fields that are no list of columns; the second states an action by a list. -/
def orders : Schema where
  declarations :=
    [.model ⟨"Customer", []⟩,
      .model ⟨"Order",
        [.field ⟨"customer", .named "Customer",
          [⟨["relation"],
              [.named "fields" (.array [.path ["region"], .path ["branch"]]),
                .named "onUpdate" (.path ["Cascade"]),
                .named "references" (.array [.call ["area"] []]),
                .named "onDelete" (.path ["Cascade"]),
                .named "fields" (.array [.literal (.text "shop")])]⟩,
            ⟨["relation"],
              [.named "references" (.array [.path ["id"]]),
                .named "onDelete" (.array []),
                .named "fields" (.array [.path ["customerId"]])]⟩]⟩,
          .field ⟨"payer", .optional (.named "Customer"), []⟩]⟩]

/-- The table of the orders in `orders`. -/
def orderTable : Entity :=
  (orders.interpretEntity (.model "Order" {})).entity

theorem relations_wired_orderTable :
    orderTable ∈ (orders.interpret {}).entities ∧ orderTable.isEnum = false ∧
      ∃ model, orders.model? orderTable.name = some model ∧
        List.Forall₂ (fun field relation => relation.WiredBy field)
          (model.fields.filter fun field =>
            (orders.model? (valueName field.type.innermost)).isSome)
          orderTable.relations := by
  have listed : orderTable ∈ (orders.interpret {}).entities :=
    List.mem_cons_of_mem _ List.mem_cons_self
  exact ⟨listed, rfl, _, rfl, relations_wired listed rfl rfl⟩

example :
    orderTable.relations.map (fun relation => (relation.joinColumns, relation.rules)) =
      [([⟨"region", "area"⟩, ⟨"customerId", "id"⟩], some ⟨some .noAction, some .cascade⟩),
        ([], none)] := by
  decide +kernel

end Schema

end EntityMapping
