/-
Module: EntityMapping.Proofs.FieldClause
Purpose: What the relation attributes of a field come to together: all their arguments, one after
  the other, state the name and the actions of the relation, and each attribute joins columns of its
  own.
Main exports: Attribute.joins, Field.relationAttributes, Field.relationArguments, Field.clause,
  RelationClause.Takes, RelationClause.takes_withArgument, RelationClause.foldl_withAttribute,
  Field.clause_eq
-/
import EntityMapping.Proofs.FieldFacts

namespace EntityMapping

open Schema (Argument Attribute Expr Field Literal)

/-- The pairs of columns that a relation attribute joins. -/
def Schema.Attribute.joins (attr : Attribute) : List JoinColumn :=
  List.zipWith JoinColumn.mk (attr.columnsNamed "fields") (attr.columnsNamed "references")

namespace Schema.Field

/-- The attributes of a field that are about its relation. -/
def relationAttributes (field : Field) : List Attribute :=
  field.attributes.filter fun attr => "relation" ∈ attr.path

/-- The arguments of all those attributes, in order. -/
def relationArguments (field : Field) : List Argument :=
  field.relationAttributes.flatMap Attribute.args

/-- What the relation attributes of a field state. -/
def clause (field : Field) : RelationClause :=
  field.facts.relation.getD {}

end Schema.Field

namespace RelationClause

/-- What an argument makes of a clause: it states the name or an action, or it says nothing. -/
inductive Takes (clause : RelationClause) : Argument → RelationClause → Prop where
  | literal (value : Literal) :
      Takes clause (.positional (.literal value)) { clause with name := some value.display }
  | name (expression : Expr) :
      Takes clause (.named "name" expression) { clause with name := expression.word? }
  | onDelete (expression : Expr) :
      Takes clause (.named "onDelete" expression) (clause.onDelete (.ofExpr expression))
  | onUpdate (expression : Expr) :
      Takes clause (.named "onUpdate" expression) (clause.onUpdate (.ofExpr expression))
  | positional {expression : Expr} (noName : ∀ value, expression ≠ .literal value) :
      Takes clause (.positional expression) clause
  | named {name : String} {expression : Expr} (noName : name ≠ "name")
      (noDelete : name ≠ "onDelete") (noUpdate : name ≠ "onUpdate") :
      Takes clause (.named name expression) clause

variable (clause : RelationClause)

theorem takes_withArgument (arg : Argument) : clause.Takes arg (clause.withArgument arg) := by
  cases arg with
  | positional expression =>
      cases expression with
      | literal value => exact Takes.literal value
      | _ => exact Takes.positional (by simp)
  | named name expression =>
      by_cases isName : name = "name"
      · subst isName
        exact Takes.name expression
      by_cases isDelete : name = "onDelete"
      · subst isDelete
        exact Takes.onDelete expression
      by_cases isUpdate : name = "onUpdate"
      · subst isUpdate
        exact Takes.onUpdate expression
      rw [withArgument, if_neg isName, if_neg isDelete, if_neg isUpdate]
      exact Takes.named isName isDelete isUpdate

/-- An argument states a name or an action, whatever columns are joined. -/
theorem withArgument_joinColumns (pairs : List JoinColumn) (arg : Argument) :
    { clause with joinColumns := pairs }.withArgument arg =
      { clause.withArgument arg with joinColumns := pairs } := by
  cases arg with
  | positional expression => cases expression <;> rfl
  | named name expression =>
      simp only [withArgument]
      split
      · rfl
      · split
        · rfl
        · split <;> rfl

theorem foldl_withArgument_joinColumns (pairs : List JoinColumn) (args : List Argument) :
    args.foldl withArgument { clause with joinColumns := pairs } =
      { args.foldl withArgument clause with joinColumns := pairs } := by
  induction args generalizing clause with
  | nil => rfl
  | cons arg rest ih => rw [List.foldl_cons, withArgument_joinColumns, ih, List.foldl_cons]

theorem joinColumns_foldl_withArgument (args : List Argument) :
    (args.foldl withArgument clause).joinColumns = clause.joinColumns := by
  have kept := clause.foldl_withArgument_joinColumns clause.joinColumns args
  exact (congrArg joinColumns kept :)

/-- A row of relation attributes states what all their arguments state, and joins what each of them
joins. -/
theorem foldl_withAttribute (attrs : List Attribute) :
    attrs.foldl withAttribute clause =
      { (attrs.flatMap Attribute.args).foldl withArgument clause with
        joinColumns := clause.joinColumns ++ attrs.flatMap Attribute.joins } := by
  induction attrs generalizing clause with
  | nil => simp
  | cons attr rest ih =>
      rw [List.foldl_cons, ih, withAttribute]
      simp only [foldl_withArgument_joinColumns, joinColumns_foldl_withArgument,
        List.flatMap_cons, List.foldl_append, Attribute.joins, List.append_assoc]

end RelationClause

namespace Schema.Field

theorem getD_foldl_withAttribute (attrs : List Attribute) (clause : Option RelationClause) :
    (attrs.foldl (fun clause attr => some ((clause.getD {}).withAttribute attr)) clause).getD {} =
      attrs.foldl RelationClause.withAttribute (clause.getD {}) := by
  induction attrs generalizing clause with
  | nil => rfl
  | cons attr rest ih => exact ih _

theorem clause_eq (field : Field) :
    field.clause =
      { field.relationArguments.foldl RelationClause.withArgument {} with
        joinColumns := field.relationAttributes.flatMap Attribute.joins } := by
  rw [clause, facts, FieldFacts.withAttributes]
  simp only [Attribute.mentions_eq]
  rw [getD_foldl_withAttribute]
  exact RelationClause.foldl_withAttribute {} field.relationAttributes

end Schema.Field

end EntityMapping
