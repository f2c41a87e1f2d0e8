/-
Module: EntityMapping.Decoding.Error
Purpose: Why a JSON text is not the record that a reader wants.
Main exports: Found, DecodeError, DecodeError.message
-/
import EntityMapping.Json.Tree
import EntityMapping.Number.Integer
import EntityMapping.Number.Shortest
import EntityMapping.Text.Quoted

namespace EntityMapping

/-- What stands where something else was expected. -/
inductive Found where
  | scalar (s : Json.Scalar)
  | sequence
  | map
deriving DecidableEq, Repr

/-- The number in words of a message. -/
def Json.Number.describe : Json.Number → String
  | .integer n => "integer `" ++ integerText n ++ "`"
  | .float x => "floating point `" ++ x.shortText ++ "`"

/-- What was found, in words of a message. -/
def Found.describe : Found → String
  | .scalar .null => "null"
  | .scalar (.boolean true) => "boolean `true`"
  | .scalar (.boolean false) => "boolean `false`"
  | .scalar (.number n) => n.describe
  | .scalar (.string text) => "string " ++ Text.quoted text
  | .sequence => "sequence"
  | .map => "map"

/-- What stands at a value. -/
def Json.Value.found : Json.Value → Found
  | .scalar s => .scalar s
  | .array _ => .sequence
  | .object _ => .map

/-- Why a text cannot be read as the record that is wanted. -/
inductive DecodeError where
  | malformed (fault : Json.Fault)
  | wrongType (found : Found) (expected : String)
  | missingField (name : String)
  | duplicateField (name : String)
  | unknownVariant (name : String) (known : List String)
  | noSuchVariant (position : Nat) (count : Nat)
  | tooShort (length : Nat) (title : String) (fields : Nat)
  | tooLong (length : Nat) (fields : Nat)
  | noMatch (title : String)
deriving DecidableEq, Repr

namespace DecodeError

/-- A number of elements in words. -/
def elementCount (n : Nat) : String :=
  if n = 1 then "1 element" else Nat.repr n ++ " elements"

/-- The error in words. -/
def message : DecodeError → String
  | malformed fault => fault.message
  | wrongType found expected => "invalid type: " ++ found.describe ++ ", expected " ++ expected
  | missingField name => "missing field `" ++ name ++ "`"
  | duplicateField name => "duplicate field `" ++ name ++ "`"
  | unknownVariant name known =>
      "unknown variant `" ++ name ++ "`, expected one of " ++
        ", ".intercalate (known.map fun k => "`" ++ k ++ "`")
  | noSuchVariant position count =>
      "invalid value: integer `" ++ Nat.repr position ++
        "`, expected variant index 0 <= i < " ++ Nat.repr count
  | tooShort length title fields =>
      "invalid length " ++ Nat.repr length ++ ", expected " ++ title ++ " with " ++
        elementCount fields
  | tooLong length fields =>
      "invalid length " ++ Nat.repr length ++ ", expected " ++ elementCount fields ++
        " in sequence"
  | noMatch title => "data did not match any variant of untagged enum " ++ title

end DecodeError

/-- A fault of the text as an error of the reader. -/
def orMalformed {α : Type} : Except Json.Fault α → Except DecodeError α
  | .ok a => .ok a
  | .error fault => .error (.malformed fault)

/-- The error of a reader that expected something else than a tree holds. A scalar is read before
it is judged, so its own faults come first; a container is not looked into. -/
def Json.Tree.wrongType (expected : String) : Json.Tree → DecodeError
  | .scalar s => .wrongType (.scalar s) expected
  | .unreadable fault => .malformed fault
  | .broken stop => .malformed stop.read
  | .array _ _ => .wrongType .sequence expected
  | .object _ _ => .wrongType .map expected

/-- Reads a document whose whole text is one record. -/
def Json.Document.decode {α : Type} (read : Json.Tree → Except DecodeError α)
    (document : Json.Document) : Except DecodeError α := do
  let a ← read document.root
  if document.followed then .error (.malformed .trailingCharacters)
  return a

end EntityMapping
