/-
Module: EntityMapping.Entity.Basic
Purpose: Entities: the table of a model, or the values of an enumeration.
Main exports: Stamp, Column, Index, ImportedFile, Entity, Entity.insertIndex, Entity.insertImport
-/
import EntityMapping.Engine
import EntityMapping.Entity.Relation
import EntityMapping.KeyedList

namespace EntityMapping

/-- The identifiers that all entities of one interpretation carry. -/
structure Stamp where
  database : String := ""
  schema : String := Engine.schema
deriving DecidableEq, Repr, Inhabited

/-- A column. It has a storage type, or else the name of the enumeration it takes its values
from. -/
structure Column where
  name : String
  dbType : Option String := none
  valueType : String
  nullable : Bool := false
  unique : Bool := false
  length : Option Nat := none
  default : Option String := none
  primary : Bool := false
  generated : Bool := false
  enumType : Option String := none
deriving DecidableEq, Repr

/-- An index over some columns. -/
structure Index where
  name : String
  columns : List String
  unique : Bool
  fulltext : Bool
deriving DecidableEq, Repr

namespace Index

/-- The index of a unique field. -/
def ofUniqueField (entity field : String) : Index where
  name := entity ++ "_" ++ field ++ "_key"
  columns := [field]
  unique := true
  fulltext := false

/-- The index that an attribute of a model declares. -/
def ofColumns (entity : String) (columns : List String) (unique fulltext : Bool) : Index where
  name := entity ++ "_" ++ "_".intercalate columns ++ "_idx"
  columns := columns
  unique := unique
  fulltext := fulltext

end Index

/-- Another entity's file that an entity needs. -/
structure ImportedFile where
  entityName : String
  fileName : String
deriving DecidableEq, Repr

/-- The import of the file of an entity, which is named like the entity. -/
def ImportedFile.ofEntity (name : String) : ImportedFile where
  entityName := name
  fileName := name

/-- An entity. -/
structure Entity where
  sqlName : String
  name : String
  fileName : String
  database : String
  schema : String
  isEnum : Bool
  enumValues : List String
  columns : List Column
  indices : List Index
  relations : List Relation
  imports : List ImportedFile
deriving DecidableEq, Repr

namespace Entity

/-- The entity of a model before any member is interpreted. -/
def model (name : String) (stamp : Stamp) : Entity where
  sqlName := name
  name := name
  fileName := name
  database := stamp.database
  schema := stamp.schema
  isEnum := false
  enumValues := []
  columns := []
  indices := []
  relations := []
  imports := []

/-- The entity of an enumeration. -/
def enumeration (name : String) (values : List String) (stamp : Stamp) : Entity :=
  { model name stamp with isEnum := true, enumValues := values }

/-- Adds an index unless there is one of that name. The flag tells whether it was added. -/
def insertIndex (entity : Entity) (index : Index) : Entity × Bool :=
  let (indices, added) := appendIfNew Index.name entity.indices index
  ({ entity with indices := indices }, added)

/-- Notes that the entity needs another entity's file, once per name. The flag tells whether it
was new. -/
def insertImport (entity : Entity) (name : String) : Entity × Bool :=
  let (imports, added) :=
    appendIfNew ImportedFile.entityName entity.imports (.ofEntity name)
  ({ entity with imports := imports }, added)

/-- The first column of a name. -/
def column? (entity : Entity) (name : String) : Option Column :=
  entity.columns.find? (·.name == name)

/-- The first relation of a field. -/
def relation? (entity : Entity) (fieldName : String) : Option Relation :=
  entity.relations.find? (·.fieldName == fieldName)

/-- The first index of a name. -/
def index? (entity : Entity) (name : String) : Option Index :=
  entity.indices.find? (·.name == name)

end Entity

end EntityMapping
