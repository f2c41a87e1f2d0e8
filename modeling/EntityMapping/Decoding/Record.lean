/-
Module: EntityMapping.Decoding.Record
Purpose: Reading a record whose fields have names and places. An object gives the fields by name
  in any order, an array gives them by place. The parts of the object or array may be of any type
  `β`; each field says how its value is read.
Main exports: Field, Record, Body, Record.ofMembers, Record.ofElements, Record.ofBody,
  Record.ofTree
-/
import EntityMapping.Decoding.Error

namespace EntityMapping.Decoding

open Json (Key Scalar Stop Tree Value)

/-- A field of a record: what its value makes of a record that lacks it. A field that is not
required keeps the value of the blank record when it is absent. -/
structure Field (β α : Type) where
  name : String
  required : Bool
  read : β → Except DecodeError (α → α)

/-- A record: the title that messages use, the record before any field is read, and the fields in
the order of their places. -/
structure Record (β α : Type) where
  title : String
  blank : α
  fields : List (Field β α)

/-- The parts of an object or of an array. -/
inductive Body (β : Type) where
  | members (parts : List (String × β))
  | elements (parts : List β)

namespace Record

variable {β α : Type}

/-- The field of a name. -/
def field? (r : Record β α) (name : String) : Option (Field β α) :=
  r.fields.find? (·.name == name)

/-- The record, if no required field is missing from the names seen. -/
def finish (r : Record β α) (seen : List String) (a : α) : Except DecodeError α :=
  match r.fields.find? (fun f => f.required && !seen.contains f.name) with
  | some f => .error (.missingField f.name)
  | none => .ok a

/-- Goes through the members of an object in their order; `a` is the record so far. -/
def readMembers (r : Record β α) (seen : List String) (a : α) :
    List (String × β) → Except DecodeError α
  | [] => r.finish seen a
  | (name, part) :: rest =>
      match r.field? name with
      | none => r.readMembers seen a rest
      | some f =>
          if seen.contains name then .error (.duplicateField name)
          else do
            let put ← f.read part
            r.readMembers (name :: seen) (put a) rest

/-- The record that an object gives: unknown members are passed over, and a known one may stand
only once. -/
def ofMembers (r : Record β α) (parts : List (String × β)) : Except DecodeError α :=
  r.readMembers [] r.blank parts

/-- Goes through the elements of an array of the given length, field by field. -/
def readElements (r : Record β α) (length : Nat) (a : α) :
    List (Field β α) → List β → Except DecodeError α
  | [], [] => .ok a
  | [], _ :: _ => .error (.tooLong length r.fields.length)
  | f :: fields, [] =>
      if f.required then .error (.tooShort length r.title r.fields.length)
      else r.readElements length a fields []
  | f :: fields, part :: rest => do
      let put ← f.read part
      r.readElements length (put a) fields rest

/-- The record that an array gives. -/
def ofElements (r : Record β α) (parts : List β) : Except DecodeError α :=
  r.readElements parts.length r.blank r.fields parts

/-- The record that the parts of a node give. -/
def ofBody (r : Record β α) : Body β → Except DecodeError α
  | .members parts => r.ofMembers parts
  | .elements parts => r.ofElements parts

/-- The record that a value gives. -/
def ofValue (r : Record Value α) : Value → Except DecodeError α
  | .object members => r.ofMembers members
  | .array elements => r.ofElements elements
  | .scalar s => .error (.wrongType (.scalar s) r.title)

/-! ### Straight from the text

A record may also be read while the text is gone over. Then a fault of the text and an error of
the record compete, and the one that stands first in the text wins. -/

/-- Goes through the members of an object of a text. -/
def readTreeMembers (r : Record Tree α) (seen : List String) (a : α) :
    List (Key × Tree) → Option Stop → Except DecodeError α
  | [], stop => do
      orMalformed (Json.requireClosed stop)
      r.finish seen a
  | (key, part) :: rest, stop => do
      let name ← orMalformed key
      match r.field? name with
      | none =>
          orMalformed part.skip
          r.readTreeMembers seen a rest stop
      | some f =>
          if seen.contains name then .error (.duplicateField name)
          else
            let put ← f.read part
            r.readTreeMembers (name :: seen) (put a) rest stop

/-- The end of an array whose fields have all been read: whatever else stands before its bracket
is not looked into. -/
def closeElements : List Tree → Option Stop → Except DecodeError Unit
  | [], none => .ok ()
  | [], some stop =>
      if stop.read = .listCommaExpected then .error (.malformed .trailingCharacters)
      else .error (.malformed stop.read)
  | .broken stop :: _, _ =>
      if stop.read = .trailingComma then .error (.malformed .trailingComma)
      else .error (.malformed .trailingCharacters)
  | _ :: _, _ => .error (.malformed .trailingCharacters)

/-- Goes through the elements of an array of a text, field by field. -/
def readTreeElements (r : Record Tree α) (length : Nat) (a : α) :
    List (Field Tree α) → List Tree → Option Stop → Except DecodeError α
  | [], rest, stop => do
      closeElements rest stop
      return a
  | f :: fields, [], stop => do
      orMalformed (Json.requireClosed stop)
      if f.required then .error (.tooShort length r.title r.fields.length)
      else r.readTreeElements length a fields [] stop
  | f :: fields, part :: rest, stop => do
      let put ← f.read part
      r.readTreeElements length (put a) fields rest stop

/-- The record that a tree gives, read as the text goes. `r` may depend on the room that is left
inside the record. -/
def ofTree (room : Nat) (r : Nat → Record Tree α) (tree : Tree) : Except DecodeError α :=
  match room, tree with
  | 0, .object _ _ => .error (.malformed .nestedTooDeep)
  | 0, .array _ _ => .error (.malformed .nestedTooDeep)
  | room + 1, .object members stop =>
      (r room).readTreeMembers [] (r room).blank members stop
  | room + 1, .array elements stop =>
      (r room).readTreeElements elements.length (r room).blank (r room).fields elements stop
  | room, tree => .error (tree.wrongType (r room).title)

end Record

/-! ### Plain fields -/

/-- A string. -/
def text : Value → Except DecodeError String
  | .scalar (.string s) => .ok s
  | value => .error (.wrongType value.found "a string")

/-- A list, each element read by `read`. -/
def list {α : Type} (read : Value → Except DecodeError α) : Value → Except DecodeError (List α)
  | .array elements => elements.mapM read
  | value => .error (.wrongType value.found "a sequence")

/-- A string of a text. -/
def textOfTree : Tree → Except DecodeError String
  | .scalar (.string s) => .ok s
  | tree => .error (tree.wrongType "a string")

/-- A list of a text, its elements read one by one with the room that is left. -/
def listOfTree {α : Type} (room : Nat) (read : Nat → Tree → Except DecodeError α) :
    Tree → Except DecodeError (List α)
  | .array elements stop =>
      match room with
      | 0 => .error (.malformed .nestedTooDeep)
      | room + 1 => do
          let values ← elements.mapM (read room)
          orMalformed (Json.requireClosed stop)
          return values
  | tree => .error (tree.wrongType "a sequence")

end EntityMapping.Decoding
