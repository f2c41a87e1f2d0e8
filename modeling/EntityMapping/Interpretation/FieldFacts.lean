/-
Module: EntityMapping.Interpretation.FieldFacts
Purpose: What the attributes of a field say about it. An attribute may belong to several categories
  at once, by the segments of its name, and attributes of one category build on each other.
Main exports: FieldFacts, defaultText, FieldReading, Draft.readAttributes
-/
import EntityMapping.BuiltinType
import EntityMapping.Interpretation.RelationClause

namespace EntityMapping

open Schema (Argument Attribute Field)

/-- What the attributes of one field say. -/
structure FieldFacts where
  primary : Bool := false
  unique : Bool := false
  dbType : Option String := none
  length : Option Nat := none
  default : Option String := none
  relation : Option RelationClause := none
deriving DecidableEq, Repr, Inhabited

/-- The default of a field: the current time of a point in time is the database's own, anything
else stands for itself. -/
def defaultText (word innermost : String) : String :=
  if innermost = "DateTime" ∧ word = "now" then "CURRENT_TIMESTAMP(3)" else word

/-- The word that an argument stands for, if it is given by position. -/
def Schema.Argument.positionalWord? : Argument → Option String
  | .positional expr => expr.word?
  | .named _ _ => none

/-- The length that an argument gives: a literal natural number of 32 bits, by position. -/
def Schema.Argument.length? : Argument → Option Nat
  | .positional (.literal (.integer n)) =>
      if 0 ≤ n ∧ n < UInt32.size then some n.toNat else none
  | _ => none

/-- A field part way through its attributes. -/
structure FieldReading where
  draft : Draft
  facts : FieldFacts := {}

namespace FieldReading

/-- `id` makes the field part of the primary key. -/
def markPrimary (attr : Attribute) (reading : FieldReading) : FieldReading :=
  if attr.mentions "id" then
    { reading with facts := { reading.facts with primary := true } }
  else reading

/-- `unique` makes the field unique, with an index of its own. -/
def markUnique (field : Field) (attr : Attribute) (reading : FieldReading) : FieldReading :=
  if attr.mentions "unique" then
    { draft := reading.draft.insertIndex (.ofUniqueField reading.draft.entity.name field.name)
      facts := { reading.facts with unique := true } }
  else reading

/-- The storage type that the second segment of an attribute's name gives. -/
def setStorage (attr : Attribute) (reading : FieldReading) : FieldReading :=
  match attr.path[1]? with
  | some native =>
      { reading with
        facts := { reading.facts with dbType := some (nativeStorageName native) } }
  | none => reading

/-- The length that the first argument of an attribute gives. -/
def setLength (field : Field) (attr : Attribute) (reading : FieldReading) : FieldReading :=
  match attr.args.head? with
  | none => reading
  | some arg =>
      match arg.length? with
      | some length =>
          { reading with facts := { reading.facts with length := some length } }
      | none =>
          { reading with
            draft := reading.draft.reportField field.name .invalidLength
              ("@" ++ attr.dottedName ++ " argument is not a length; ignored") }

/-- `db` states the storage type and the length. -/
def applyStorage (field : Field) (attr : Attribute) (reading : FieldReading) : FieldReading :=
  if attr.mentions "db" then (reading.setStorage attr).setLength field attr else reading

/-- `default` states the default, if its first argument is a word. -/
def applyDefault (field : Field) (attr : Attribute) (reading : FieldReading) : FieldReading :=
  if attr.mentions "default" then
    match attr.args.head?.bind Argument.positionalWord? with
    | some word =>
        { reading with
          facts :=
            { reading.facts with
              default := some (defaultText word field.type.innermost) } }
    | none => reading
  else reading

/-- `relation` adds to the relation clause. -/
def applyRelation (field : Field) (attr : Attribute) (reading : FieldReading) : FieldReading :=
  if attr.mentions "relation" then
    let read :=
      reading.draft.readRelation field.name (reading.facts.relation.getD {}) attr
    { draft := read.draft
      facts := { reading.facts with relation := some read.clause } }
  else reading

/-- Takes in one attribute, category by category. -/
def apply (field : Field) (reading : FieldReading) (attr : Attribute) : FieldReading :=
  reading
    |>.markPrimary attr
    |>.markUnique field attr
    |>.applyStorage field attr
    |>.applyDefault field attr
    |>.applyRelation field attr

end FieldReading

/-- What the attributes of a field say, in their order. Indices of unique attributes are added to
the entity on the way. -/
def Draft.readAttributes (draft : Draft) (field : Field) : FieldReading :=
  field.attributes.foldl (FieldReading.apply field) { draft := draft }

end EntityMapping
