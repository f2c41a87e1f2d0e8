/-
Module: EntityMapping.Json.Printer
Purpose: JSON text over several lines, two spaces for each level.
Main exports: Value.pretty
-/
import EntityMapping.Json.Value
import EntityMapping.Number.Integer
import EntityMapping.Number.Shortest

namespace EntityMapping.Json

/-- One character inside a string. Everything from the space on is written as it is, except the
quotation mark and the backslash. -/
def escapedChar : Char → String
  | '"' => "\\\""
  | '\\' => "\\\\"
  | '\x08' => "\\b"
  | '\x0c' => "\\f"
  | '\n' => "\\n"
  | '\r' => "\\r"
  | '\t' => "\\t"
  | c =>
      if c.toNat < 0x20 then
        let digits := Nat.toDigits 16 c.toNat
        "\\u" ++ String.ofList (List.replicate (4 - digits.length) '0' ++ digits)
      else String.singleton c

/-- A string between quotation marks. -/
def quotedString (text : String) : String :=
  "\"" ++ String.join (text.toList.map escapedChar) ++ "\""

/-- A value without parts. -/
def Scalar.text : Scalar → String
  | .null => "null"
  | .boolean true => "true"
  | .boolean false => "false"
  | .number (.integer n) => integerText n
  | .number (.float x) => x.shortText
  | .string text => quotedString text

/-- A new line at a level. -/
def newline (level : Nat) : String :=
  "\n" ++ String.ofList (List.replicate (2 * level) ' ')

mutual

/-- A value whose first line is at a level. -/
def Value.prettyAt (level : Nat) : Value → String
  | .scalar s => s.text
  | .array [] => "[]"
  | .array elements =>
      "[" ++ ",".intercalate (prettyElements (level + 1) elements) ++ newline level ++ "]"
  | .object [] => "\x7b\x7d"
  | .object members =>
      "\x7b" ++ ",".intercalate (prettyMembers (level + 1) members) ++ newline level ++ "\x7d"

/-- The elements of a list, each on a line of its own. -/
def prettyElements (level : Nat) : List Value → List String
  | [] => []
  | value :: rest => (newline level ++ value.prettyAt level) :: prettyElements level rest

/-- The members of an object, each on a line of its own. -/
def prettyMembers (level : Nat) : List (String × Value) → List String
  | [] => []
  | (name, value) :: rest =>
      (newline level ++ quotedString name ++ ": " ++ value.prettyAt level) ::
        prettyMembers level rest

end

/-- A value over several lines. -/
def Value.pretty (value : Value) : String :=
  value.prettyAt 0

end EntityMapping.Json
