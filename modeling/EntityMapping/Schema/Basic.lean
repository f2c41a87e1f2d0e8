/-
Module: EntityMapping.Schema.Basic
Purpose: A data-model schema as a tree of declarations: models with their fields and attributes,
  enumerations with their values, and declarations of other sorts.
Main exports: FieldType, Attribute, Field, Member, Model, Enumeration, Declaration, Schema,
  Schema.lookup
-/
import EntityMapping.Schema.Expr

namespace EntityMapping.Schema

/-- The type of a field: a name, or an optional or repeated type. -/
inductive FieldType where
  | named (name : String)
  | optional (inner : FieldType)
  | list (inner : FieldType)
deriving DecidableEq, Repr, Inhabited

namespace FieldType

/-- The innermost name. -/
def innermost : FieldType → String
  | .named name => name
  | .optional inner => inner.innermost
  | .list inner => inner.innermost

/-- Whether the type is optional at the outermost level. -/
def isOptional : FieldType → Bool
  | .optional _ => true
  | _ => false

/-- Whether the type is a list at the outermost level. -/
def isList : FieldType → Bool
  | .list _ => true
  | _ => false

end FieldType

/-- An attribute of a field or of a model. `path` is its dotted name, segment by segment. -/
structure Attribute where
  path : List String
  args : List Argument
deriving Inhabited

namespace Attribute

/-- Whether some segment of the attribute's name is the given one. -/
def mentions (attr : Attribute) (segment : String) : Bool :=
  attr.path.contains segment

/-- The attribute's name with dots between the segments. -/
def dottedName (attr : Attribute) : String :=
  ".".intercalate attr.path

end Attribute

/-- A field of a model. -/
structure Field where
  name : String
  type : FieldType
  attributes : List Attribute
deriving Inhabited

/-- A member of a model. Comments and the like are `other`. -/
inductive Member where
  | field (f : Field)
  | modelAttribute (attr : Attribute)
  | other

/-- The field that a member declares. -/
def Member.field? : Member → Option Field
  | .field f => some f
  | _ => none

/-- A model: a name and members in the order of the schema. -/
structure Model where
  name : String
  members : List Member
deriving Inhabited

/-- The fields of a model, in order. -/
def Model.fields (model : Model) : List Field :=
  model.members.filterMap Member.field?

/-- A member of an enumeration. -/
inductive EnumItem where
  | value (name : String)
  | other
deriving DecidableEq, Repr

/-- An enumeration: a name and members in the order of the schema. -/
structure Enumeration where
  name : String
  members : List EnumItem
deriving DecidableEq, Repr, Inhabited

/-- The names of an enumeration's values, in order. -/
def Enumeration.values (enumeration : Enumeration) : List String :=
  enumeration.members.filterMap fun
    | .value name => some name
    | .other => none

/-- A declaration at the top of a schema. Generators, data sources and the like are `unknown`. -/
inductive Declaration where
  | model (m : Model)
  | enumeration (e : Enumeration)
  | unknown

namespace Declaration

/-- The name that a declaration gives. -/
def name? : Declaration → Option String
  | .model m => some m.name
  | .enumeration e => some e.name
  | .unknown => none

end Declaration

end EntityMapping.Schema

namespace EntityMapping

/-- A schema: its declarations in order. -/
structure Schema where
  declarations : List Schema.Declaration

namespace Schema

/-- The declaration that a name refers to: the last one that gives it. -/
def lookup (schema : Schema) (name : String) : Option Declaration :=
  schema.declarations.reverse.find? fun declaration => declaration.name? == some name

/-- The model that a name refers to. -/
def model? (schema : Schema) (name : String) : Option Model :=
  match schema.lookup name with
  | some (.model m) => some m
  | _ => none

end Schema

end EntityMapping
