/-
Module: EntityMapping.Schema.Reader
Purpose: Reading a schema from a JSON text. The document and its list of declarations are read as
  the text goes; each declaration is read into memory and then judged.
Main exports: FieldType.ofTree, Attribute.ofTree, Declaration.ofTree, Schema.ofText
-/
import EntityMapping.Schema.Basic
import EntityMapping.Schema.Operand

namespace EntityMapping.Schema

open Decoding
open Json (Algebra Document Tree Value nestingLimit)

/-! ### Types -/

/-- The sorts of type. -/
inductive TypeTag where
  | named
  | optional
  | list

/-- The tags of a type. -/
def typeTags : Tags TypeTag where
  title := "TypeExpr"
  known := [("typeId", .named), ("optional", .optional), ("list", .list)]
  other := none

/-- A value and the type that it gives. -/
structure TypeReading where
  value : Value
  type : Except DecodeError FieldType

/-- A type that is a name: `name`. -/
def namedTypeRecord : Record TypeReading FieldType where
  title := "struct variant TypeExpr::TypeId"
  blank := default
  fields := [{ name := "name", required := true, read := fun part => do
    let name ← text part.value
    return fun _ => .named name }]

/-- An optional type: `type`. -/
def optionalTypeRecord : Record TypeReading FieldType where
  title := "struct variant TypeExpr::Optional"
  blank := default
  fields := [{ name := "type", required := true, read := fun part => do
    let inner ← part.type
    return fun _ => .optional inner }]

/-- A list type: `type`. -/
def listTypeRecord : Record TypeReading FieldType where
  title := "struct variant TypeExpr::List"
  blank := default
  fields := [{ name := "type", required := true, read := fun part => do
    let inner ← part.type
    return fun _ => .list inner }]

/-- The type that the parts of a node of a given sort make. -/
def FieldType.ofBody (body : Body TypeReading) : TypeTag → Except DecodeError FieldType
  | .named => namedTypeRecord.ofBody body
  | .optional => optionalTypeRecord.ofBody body
  | .list => listTypeRecord.ofBody body

/-- Reads every part of a value as a type. -/
def TypeReading.algebra : Algebra TypeReading where
  scalar s :=
    { value := .scalar s
      type := .error (.wrongType (.scalar s) typeTags.expected) }
  array parts :=
    { value := .array (parts.map TypeReading.value)
      type := do
        let (tag, body) ← typeTags.ofElements TypeReading.value parts
        FieldType.ofBody body tag }
  object parts :=
    { value := .object (parts.map fun (name, part) => (name, part.value))
      type := do
        let (tag, body) ← typeTags.ofMembers TypeReading.value parts
        FieldType.ofBody body tag }

/-- The type that a value gives. -/
def FieldType.ofValue (value : Value) : Except DecodeError FieldType :=
  (value.fold TypeReading.algebra).type

/-- The parts of a node, each read as a type. -/
def typeBody : Body Value → Body TypeReading
  | .members parts =>
      .members (parts.map fun (name, value) => (name, value.fold TypeReading.algebra))
  | .elements parts => .elements (parts.map (Value.fold TypeReading.algebra))

/-- The type of a tree. -/
def FieldType.ofTree (room : Nat) (tree : Tree) : Except DecodeError FieldType := do
  let (tag, body) ← typeTags.ofTree room tree
  FieldType.ofBody (typeBody body) tag

/-! ### Attributes and fields -/

/-- An attribute in memory: `path`, and `args` or none. -/
def attributeRecord : Record Value Attribute where
  title := "struct Attribute"
  blank := default
  fields := [
    { name := "path", required := true, read := fun value => do
        let path ← list text value
        return fun attr => { attr with path := path } },
    { name := "args", required := false, read := fun value => do
        let args ← (Operand.ofValue value).arguments
        return fun attr => { attr with args := args } }]

/-- An attribute of a text. -/
def attributeTreeRecord (room : Nat) : Record Tree Attribute where
  title := "struct Attribute"
  blank := default
  fields := [
    { name := "path", required := true, read := fun tree => do
        let path ← listOfTree room (fun _ => textOfTree) tree
        return fun attr => { attr with path := path } },
    { name := "args", required := false, read := fun tree => do
        let args ← listOfTree room Argument.ofTree tree
        return fun attr => { attr with args := args } }]

/-- The attribute of a tree. -/
def Attribute.ofTree (room : Nat) (tree : Tree) : Except DecodeError Attribute :=
  Record.ofTree room attributeTreeRecord tree

/-- A field: `name`, `type`, and `attributes` or none. -/
def fieldRecord : Record Value Field where
  title := "struct FieldDeclaration"
  blank := default
  fields := [
    { name := "name", required := true, read := fun value => do
        let name ← text value
        return fun field => { field with name := name } },
    { name := "type", required := true, read := fun value => do
        let type ← FieldType.ofValue value
        return fun field => { field with type := type } },
    { name := "attributes", required := false, read := fun value => do
        let attributes ← list attributeRecord.ofValue value
        return fun field => { field with attributes := attributes } }]

/-! ### Members and declarations -/

/-- The sorts of member of a model. -/
inductive MemberTag where
  | field
  | modelAttribute
  | other

/-- The tags of a member of a model. -/
def memberTags : Tags MemberTag where
  title := "ModelMember"
  known := [("field", .field), ("blockAttribute", .modelAttribute)]
  other := some .other

/-- The member of a model that a value gives. -/
def Member.ofValue (value : Value) : Except DecodeError Member := do
  let (tag, body) ← memberTags.ofValue value
  match tag with
  | .field => return .field (← fieldRecord.ofBody body)
  | .modelAttribute => return .modelAttribute (← attributeRecord.ofBody body)
  | .other => do
      body.ignore
      return .other

/-- The tags of a member of an enumeration: whether it is a value. -/
def enumMemberTags : Tags Bool where
  title := "EnumMember"
  known := [("enumValue", true)]
  other := some false

/-- A value of an enumeration: `name`. -/
def enumValueRecord : Record Value EnumItem where
  title := "struct variant EnumMember::EnumValue"
  blank := .other
  fields := [{ name := "name", required := true, read := fun value => do
    let name ← text value
    return fun _ => .value name }]

/-- The member of an enumeration that a value gives. -/
def EnumItem.ofValue (value : Value) : Except DecodeError EnumItem := do
  let (isValue, body) ← enumMemberTags.ofValue value
  if isValue then enumValueRecord.ofBody body
  else
    body.ignore
    return .other

/-- A model: `name`, and `members` or none. -/
def modelRecord : Record Value Model where
  title := "struct ModelDeclaration"
  blank := default
  fields := [
    { name := "name", required := true, read := fun value => do
        let name ← text value
        return fun model => { model with name := name } },
    { name := "members", required := false, read := fun value => do
        let members ← list Member.ofValue value
        return fun model => { model with members := members } }]

/-- An enumeration: `name`, and `members` or none. -/
def enumerationRecord : Record Value Enumeration where
  title := "struct EnumDeclaration"
  blank := default
  fields := [
    { name := "name", required := true, read := fun value => do
        let name ← text value
        return fun enumeration => { enumeration with name := name } },
    { name := "members", required := false, read := fun value => do
        let members ← list EnumItem.ofValue value
        return fun enumeration => { enumeration with members := members } }]

/-- The sorts of declaration. -/
inductive DeclarationTag where
  | model
  | enumeration
  | unknown

/-- The tags of a declaration. -/
def declarationTags : Tags DeclarationTag where
  title := "Declaration"
  known := [("model", .model), ("enum", .enumeration)]
  other := some .unknown

/-- The declaration of a tree. -/
def Declaration.ofTree (room : Nat) (tree : Tree) : Except DecodeError Declaration := do
  let (tag, body) ← declarationTags.ofTree room tree
  match tag with
  | .model => return .model (← modelRecord.ofBody body)
  | .enumeration => return .enumeration (← enumerationRecord.ofBody body)
  | .unknown => do
      body.ignore
      return .unknown

/-! ### Schemas -/

/-- A schema of a text: `declarations`. -/
def schemaRecord (room : Nat) : Record Tree Schema where
  title := "struct SchemaAst"
  blank := { declarations := [] }
  fields := [{ name := "declarations", required := true, read := fun tree => do
    let declarations ← listOfTree room Declaration.ofTree tree
    return fun _ => { declarations := declarations } }]

/-- The schema of a tree. -/
def ofTree (tree : Tree) : Except DecodeError Schema :=
  Record.ofTree nestingLimit schemaRecord tree

/-- The schema that a text holds. -/
def ofText (text : String) : Except DecodeError Schema :=
  (Document.ofText text).decode ofTree

end EntityMapping.Schema
