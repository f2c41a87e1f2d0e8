/-
Module: EntityMapping.Entity.Cardinality
Purpose: The cardinality of a relation: its names, how it looks from the other side, and how it
  follows from the shapes of the two fields.
Main exports: Cardinality, Cardinality.dual, Cardinality.ofShapes
-/

namespace EntityMapping

/-- The cardinality of a relation, seen from the field that owns it. -/
inductive Cardinality where
  | oneToOne
  | oneToMany
  | manyToOne
  | manyToMany
deriving DecidableEq, Repr

namespace Cardinality

/-- The name of a cardinality in a report. -/
def name : Cardinality → String
  | .oneToOne => "OneToOne"
  | .oneToMany => "OneToMany"
  | .manyToOne => "ManyToOne"
  | .manyToMany => "ManyToMany"

/-- The cardinality of a name with dashes, as the words of a command line give it. -/
def ofDashed? (name : String) : Option Cardinality :=
  if name = "one-to-one" then some .oneToOne
  else if name = "one-to-many" then some .oneToMany
  else if name = "many-to-one" then some .manyToOne
  else if name = "many-to-many" then some .manyToMany
  else none

/-- The cardinality seen from the other side. -/
def dual : Cardinality → Cardinality
  | .oneToOne => .oneToOne
  | .oneToMany => .manyToOne
  | .manyToOne => .oneToMany
  | .manyToMany => .manyToMany

/-- The cardinality of a relation, from whether it leads back to its own entity, whether the field
is a list, and whether the field that leads back is one. -/
def ofShapes (selfReference isList inverseIsList : Bool) : Cardinality :=
  match selfReference, isList, inverseIsList with
  | true, true, _ => .oneToMany
  | true, false, _ => .manyToOne
  | false, true, false => .oneToMany
  | false, true, true => .manyToMany
  | false, false, true => .manyToOne
  | false, false, false => .oneToOne

end Cardinality

end EntityMapping
