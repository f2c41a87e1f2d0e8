/-
Module: EntityMapping.Proofs.RelationClause
Purpose: What reading a relation attribute comes to, without the draft and the state that it runs
  on: what it adds to the clause depends on its arguments alone, and what it reports on the field
  and the name of the entity besides.
Main exports: Attribute.columnsNamed, Attribute.relationFaults, RelationClause.withAttribute,
  Draft.readRelation_eq
-/
import EntityMapping.Proofs.Contribution

namespace EntityMapping

open Schema (Argument Attribute)

/-- A diagnostic about a field of the entity named `owner`. -/
def Diagnostic.ofField (owner field : String) (kind : Diagnostic.Kind) (message : String) :
    Diagnostic :=
  ⟨kind, .field owner field, message⟩

namespace Schema.Argument

/-- The columns that an argument lists under the given name. -/
def columnsNamed? (name : String) : Argument → Option (List String)
  | .named given expression => if given = name then expression.names? else none
  | .positional _ => none

/-- What is wrong with an argument of a relation attribute that means nothing. -/
def relationFault? : Argument → Option String
  | .positional (.literal _) => none
  | .positional _ => some "positional relation argument is not a name literal; ignored"
  | .named name expression =>
      if name = "fields" ∨ name = "references" then
        match expression.names? with
        | some _ => none
        | none => some ("relation " ++ name ++ " is not a list of column names; ignored")
      else if name = "name" ∨ name = "onDelete" ∨ name = "onUpdate" then none
      else some ("unknown relation argument: " ++ name)

end Schema.Argument

namespace Schema.Attribute

/-- The columns that an attribute lists last under the given name. -/
def columnsNamed (attr : Attribute) (name : String) : List String :=
  (attr.args.filterMap (Argument.columnsNamed? name)).getLast?.getD []

/-- What is wrong with the two lists of columns of a relation attribute. -/
def pairingFault? (attr : Attribute) : Option String :=
  let fields := attr.columnsNamed "fields"
  let references := attr.columnsNamed "references"
  if fields.length = references.length then none
  else
    some ("relation has " ++ Nat.repr fields.length ++ " fields but " ++
      Nat.repr references.length ++ " references; unpaired columns ignored")

/-- Everything that is wrong with a relation attribute, in order. -/
def relationFaults (attr : Attribute) : List String :=
  attr.args.filterMap Argument.relationFault? ++ attr.pairingFault?.toList

end Schema.Attribute

namespace RelationClause

/-- The clause with the name or the action that an argument states. -/
def withArgument (clause : RelationClause) : Argument → RelationClause
  | .positional (.literal value) => { clause with name := some value.display }
  | .positional _ => clause
  | .named name expression =>
      if name = "name" then { clause with name := expression.word? }
      else if name = "onDelete" then clause.onDelete (.ofExpr expression)
      else if name = "onUpdate" then clause.onUpdate (.ofExpr expression)
      else clause

/-- The clause with all that an attribute states. -/
def withAttribute (clause : RelationClause) (attr : Attribute) : RelationClause :=
  let stated := attr.args.foldl withArgument clause
  { stated with
    joinColumns :=
      stated.joinColumns ++
        List.zipWith JoinColumn.mk (attr.columnsNamed "fields") (attr.columnsNamed "references") }

end RelationClause

namespace RelationReading

theorem argument_eq (field : String) (reading : RelationReading) (arg : Argument) :
    reading.argument field arg =
      { draft :=
          reading.draft.extend
            { diagnostics :=
                arg.relationFault?.toList.map
                  (.ofField reading.draft.entity.name field .unknownRelationArgument) }
        clause := reading.clause.withArgument arg
        fields := (arg.columnsNamed? "fields").getD reading.fields
        references := (arg.columnsNamed? "references").getD reading.references } := by
  cases arg with
  | positional expression =>
      cases expression <;>
        simp [argument, unknown, Argument.relationFault?, RelationClause.withArgument,
          Argument.columnsNamed?, Draft.reportField_eq, Diagnostic.ofField]
  | named name expression =>
      simp only [argument, unknown, Argument.relationFault?, RelationClause.withArgument,
        Argument.columnsNamed?, Draft.reportField_eq]
      by_cases isFields : name = "fields"
      · cases listed : expression.names? <;> simp [isFields, Diagnostic.ofField]
      by_cases isReferences : name = "references"
      · cases listed : expression.names? <;> simp [isReferences, Diagnostic.ofField]
      by_cases isName : name = "name"
      · simp [isName]
      by_cases isDelete : name = "onDelete"
      · simp [isDelete]
      by_cases isUpdate : name = "onUpdate"
      · simp [isUpdate]
      simp [isFields, isReferences, isName, isDelete, isUpdate, Diagnostic.ofField]

/-- A row of arguments changes what its arguments change; of two lists of columns under one name,
the later one stands. -/
theorem foldl_argument (field : String) (args : List Argument) (reading : RelationReading) :
    args.foldl (argument field) reading =
      { draft :=
          reading.draft.extend
            { diagnostics :=
                (args.filterMap Argument.relationFault?).map
                  (.ofField reading.draft.entity.name field .unknownRelationArgument) }
        clause := args.foldl RelationClause.withArgument reading.clause
        fields :=
          (args.filterMap (Argument.columnsNamed? "fields")).getLast?.getD reading.fields
        references :=
          (args.filterMap (Argument.columnsNamed? "references")).getLast?.getD
            reading.references } := by
  induction args generalizing reading with
  | nil => simp
  | cons arg rest ih =>
      rw [List.foldl_cons, ih, argument_eq]
      simp only [Draft.extend_name, Draft.extend_extend, List.foldl_cons, List.filterMap_cons]
      congr 1
      · cases arg.relationFault? <;> rfl
      · cases arg.columnsNamed? "fields" <;> simp [List.getLast?_cons]
      · cases arg.columnsNamed? "references" <;> simp [List.getLast?_cons]

theorem finish_eq (field : String) (attr : Attribute) (reading : RelationReading)
    (fieldsRead : reading.fields = attr.columnsNamed "fields")
    (referencesRead : reading.references = attr.columnsNamed "references") :
    reading.finish field =
      { reading with
        draft :=
          reading.draft.extend
            { diagnostics :=
                attr.pairingFault?.toList.map
                  (.ofField reading.draft.entity.name field .unknownRelationArgument) }
        clause :=
          { reading.clause with
            joinColumns :=
              reading.clause.joinColumns ++
                List.zipWith JoinColumn.mk (attr.columnsNamed "fields")
                  (attr.columnsNamed "references") } } := by
  unfold finish Attribute.pairingFault?
  rw [← fieldsRead, ← referencesRead]
  by_cases paired : reading.fields.length = reading.references.length
  · simp [paired]
  · simp [paired, unknown, Draft.reportField_eq, Diagnostic.ofField]

end RelationReading

/-- A relation attribute adds what is wrong with it to the draft, and to the clause what it states,
whatever the draft holds. -/
theorem Draft.readRelation_eq (draft : Draft) (field : String) (clause : RelationClause)
    (attr : Attribute) :
    draft.readRelation field clause attr =
      { draft :=
          draft.extend
            { diagnostics :=
                attr.relationFaults.map
                  (.ofField draft.entity.name field .unknownRelationArgument) }
        clause := clause.withAttribute attr
        fields := attr.columnsNamed "fields"
        references := attr.columnsNamed "references" } := by
  unfold readRelation
  rw [RelationReading.foldl_argument, RelationReading.finish_eq field attr _ rfl rfl]
  simp [Draft.extend_extend, Attribute.relationFaults, RelationClause.withAttribute,
    Attribute.columnsNamed]

end EntityMapping
