/-
Module: EntityMapping.BuiltinType
Purpose: The types that a schema knows by itself, and what they are called in storage and in code.
  A name that is not in a table stands for itself, since a field may name a model or an
  enumeration.
Main exports: BuiltinType, NativeStorage, storageName, valueName, nativeStorageName
-/

namespace EntityMapping

/-- The types of a schema that have names of their own in storage and in code. -/
inductive BuiltinType where
  | string
  | int
  | boolean
  | dateTime
  | json
deriving DecidableEq, Repr

namespace BuiltinType

/-- The type that a schema calls by a name. -/
def ofName? (name : String) : Option BuiltinType :=
  if name = "String" then some .string
  else if name = "Int" then some .int
  else if name = "Boolean" then some .boolean
  else if name = "DateTime" then some .dateTime
  else if name = "Json" then some .json
  else none

/-- What the type is called in storage. -/
def storage : BuiltinType → String
  | .string => "varchar"
  | .int => "int"
  | .boolean => "boolean"
  | .dateTime => "datetime"
  | .json => "json"

/-- What the type of the values is called in code. -/
def value : BuiltinType → String
  | .string => "string"
  | .int => "number"
  | .boolean => "boolean"
  | .dateTime => "Date"
  | .json => "object"

end BuiltinType

/-- The storage types that an attribute may ask for. -/
inductive NativeStorage where
  | varChar
  | text
  | int
deriving DecidableEq, Repr

namespace NativeStorage

/-- The storage type that an attribute asks for by a name. -/
def ofName? (name : String) : Option NativeStorage :=
  if name = "VarChar" then some .varChar
  else if name = "Text" then some .text
  else if name = "Int" then some .int
  else none

/-- What the storage type is called in storage. -/
def storage : NativeStorage → String
  | .varChar => "varchar"
  | .text => "text"
  | .int => "int"

end NativeStorage

/-- What a field's innermost type is called in storage. -/
def storageName (innermost : String) : String :=
  ((BuiltinType.ofName? innermost).map BuiltinType.storage).getD innermost

/-- What a field's innermost type is called in code. -/
def valueName (innermost : String) : String :=
  ((BuiltinType.ofName? innermost).map BuiltinType.value).getD innermost

/-- What the storage type that an attribute asks for is called in storage. -/
def nativeStorageName (native : String) : String :=
  ((NativeStorage.ofName? native).map NativeStorage.storage).getD native

end EntityMapping
