/-
Module: EntityMapping.Entity.Relation
Purpose: The relations of an entity: how the two sides are joined, and what happens on delete and
  update.
Main exports: ReferentialAction, ReferentialRules, JoinColumn, JoinTable, Relation
-/
import EntityMapping.Entity.Cardinality

namespace EntityMapping

/-- What happens to a row when the row that it refers to is deleted or updated. -/
inductive ReferentialAction where
  | noAction
  | restrict
  | cascade
  | setNull
  | setDefault
deriving DecidableEq, Repr

namespace ReferentialAction

/-- The action that a schema names. A name that is not known means no action. -/
def ofWord (word : String) : ReferentialAction :=
  if word = "Restrict" then .restrict
  else if word = "Cascade" then .cascade
  else if word = "SetNull" then .setNull
  else if word = "SetDefault" then .setDefault
  else .noAction

/-- The action in SQL. -/
def sql : ReferentialAction → String
  | .noAction => "NO ACTION"
  | .restrict => "RESTRICT"
  | .cascade => "CASCADE"
  | .setNull => "SET NULL"
  | .setDefault => "SET DEFAULT"

end ReferentialAction

/-- The actions of a relation that a schema states. -/
structure ReferentialRules where
  onDelete : Option ReferentialAction := none
  onUpdate : Option ReferentialAction := none
deriving DecidableEq, Repr, Inhabited

/-- A local column and the column of the related entity that it refers to. -/
structure JoinColumn where
  name : String
  referenced : String
deriving DecidableEq, Repr, Inhabited

/-- The table between the two sides of a many-to-many relation. -/
structure JoinTable where
  name : String
  joinColumns : List JoinColumn
  inverseJoinColumns : List JoinColumn
deriving DecidableEq, Repr, Inhabited

/-- The join table of two entities, named for the owner first. Each side is joined by a column of
its own that refers to `id`. -/
def JoinTable.linking (owner related : String) : JoinTable where
  name := owner ++ "_" ++ related
  joinColumns := [{ name := owner ++ "_id", referenced := "id" }]
  inverseJoinColumns := [{ name := related ++ "_id", referenced := "id" }]

/-- A relation of an entity to another one. `relatedField` is the field that leads back, empty
when there is none. -/
structure Relation where
  cardinality : Cardinality
  relatedTable : String
  relatedField : String
  fieldName : String
  relationName : Option String := none
  joinColumns : List JoinColumn := []
  joinTable : Option JoinTable := none
  rules : Option ReferentialRules := none
deriving DecidableEq, Repr

/-- How the relation is joined: the name of its join table, or its pairs of columns. -/
def Relation.joinText? (relation : Relation) : Option String :=
  match relation.joinTable with
  | some table => some table.name
  | none =>
      if relation.joinColumns.isEmpty then none
      else
        let pairs := relation.joinColumns.map fun c => c.name ++ "->" ++ c.referenced
        some (", ".intercalate pairs)

end EntityMapping
