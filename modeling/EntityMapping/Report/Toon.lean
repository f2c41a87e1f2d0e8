/-
Module: EntityMapping.Report.Toon
Purpose: The token-oriented notation of JSON objects: one line per member, lists with their length
  in brackets, and lists of like objects as tables.
Main exports: Toon.encode
-/
import EntityMapping.Json.Value
import EntityMapping.Number.Integer
import EntityMapping.Number.Shortest
import EntityMapping.Text.Blank
import EntityMapping.Text.DecimalDigit

namespace EntityMapping.Toon

open Json (Algebra Scalar Value)

/-! ### Values without parts -/

/-- The rest of a text after its decimal digits, if it starts with one. -/
def afterDigits? (text : List Char) : Option (List Char) :=
  match text with
  | [] => none
  | c :: _ =>
      if Text.isDecimalDigit c then some (text.dropWhile Text.isDecimalDigit) else none

/-- Whether a text ends here or after an exponent. -/
def endsNumber : List Char → Bool
  | [] => true
  | 'e' :: '+' :: rest => afterDigits? rest == some []
  | 'e' :: '-' :: rest => afterDigits? rest == some []
  | 'e' :: rest => afterDigits? rest == some []
  | _ => false

/-- Whether a text reads like a number: digits of any script, an optional fraction and an optional
exponent. -/
def looksNumeric (text : List Char) : Bool :=
  let unsigned :=
    match text with
    | '-' :: rest => rest
    | _ => text
  match afterDigits? unsigned with
  | none => false
  | some ('.' :: rest) =>
      match afterDigits? rest with
      | none => false
      | some rest => endsNumber rest
  | some rest => endsNumber rest

/-- The characters that a text without quotation marks cannot hold. -/
def isDelimiter (c : Char) : Bool :=
  [':', '"', '\\', '[', ']', '{', '}', '\n', '\r', '\t', ','].contains c

/-- Whether a text can stand without quotation marks: it could not be taken for another value or
for a part of the notation, and loses no white space. -/
def isPlain (text : String) : Bool :=
  let chars := text.toList
  !chars.isEmpty &&
    !(chars.head?.any Text.isBlank) &&
    !(chars.getLast?.any Text.isBlank) &&
    !(["true", "false", "null"].contains text) &&
    !looksNumeric chars &&
    !chars.any isDelimiter &&
    !(chars.take 2 == ['-', ' '])

/-- One character between quotation marks. -/
def escapedChar : Char → String
  | '\\' => "\\\\"
  | '"' => "\\\""
  | '\n' => "\\n"
  | '\r' => "\\r"
  | '\t' => "\\t"
  | c => String.singleton c

/-- A text, between quotation marks where it needs them. -/
def text (s : String) : String :=
  if isPlain s then s
  else "\"" ++ String.join (s.toList.map escapedChar) ++ "\""

/-- An integer: exact up to fifteen digits, then as the nearest double. -/
def integer (n : Int) : String :=
  if n.natAbs < Nat.pow 10 15 then integerText n
  else
    match Binary64.ofNatural? (n < 0) n.natAbs with
    | some x => x.plainText
    | none => integerText n

/-- A value without parts. -/
def scalar : Scalar → String
  | .null => "null"
  | .boolean true => "true"
  | .boolean false => "false"
  | .number (.integer n) => integer n
  | .number (.float x) => x.plainText
  | .string s => text s

/-! ### Lists -/

/-- The values without parts that a list consists of, if it has no others. -/
def scalars? (values : List Value) : Option (List Scalar) :=
  values.mapM fun
    | .scalar s => some s
    | _ => none

/-- The cells of a row: the values of the keys, if the object has just those keys and its values
have no parts. -/
def row? (keys : List String) : Value → Option (List Scalar)
  | .object members =>
      if members.length = keys.length then
        keys.mapM fun key =>
          match members.lookup key with
          | some (.scalar s) => some s
          | _ => none
      else none
  | _ => none

/-- The columns and rows of a list of objects that all have the same keys, the first one's. -/
def table? (values : List Value) : Option (List String × List (List Scalar)) :=
  match values with
  | .object (member :: members) :: _ =>
      let keys := (member :: members).map Prod.fst
      (values.mapM (row? keys)).map fun rows => (keys, rows)
  | _ => none

/-- A line at a depth. -/
def line (depth : Nat) (content : String) : String :=
  String.ofList (List.replicate (2 * depth) ' ') ++ content

/-- Values without parts, side by side. -/
def cells (values : List Scalar) : String :=
  ",".intercalate (values.map scalar)

/-- A key with the length of its list. -/
def sized (key : String) (length : Nat) : String :=
  key ++ "[" ++ Nat.repr length ++ "]"

/-! ### Objects -/

mutual

/-- The lines of a member. The first line starts with `lead`; the members of an object value are
at the depth `inner`. -/
def member (lead : String) (depth inner : Nat) (key : String) : Value → List String
  | .scalar s => [line depth (lead ++ key ++ ": " ++ scalar s)]
  | .object parts => line depth (lead ++ key ++ ":") :: members inner parts
  | .array values =>
      let head := lead ++ sized key values.length
      if values.isEmpty then [line depth (head ++ ":")]
      else
        match scalars? values, table? values with
        | some row, _ => [line depth (head ++ ": " ++ cells row)]
        | none, some (keys, rows) =>
            line depth (head ++ "\x7b" ++ ",".intercalate keys ++ "\x7d:") ::
              rows.map fun row => line (depth + 1) (cells row)
        | none, none => line depth (head ++ ":") :: items (depth + 1) values

/-- The lines of the members of an object. -/
def members (depth : Nat) : List (String × Value) → List String
  | [] => []
  | (key, value) :: rest => member "" depth (depth + 1) key value ++ members depth rest

/-- The lines of the items of a list. -/
def items (depth : Nat) : List Value → List String
  | [] => []
  | value :: rest => item depth value ++ items depth rest

/-- The lines of an item: its first member follows the dash. -/
def item (depth : Nat) : Value → List String
  | .object [] => [line depth "-"]
  | .object ((key, value) :: rest) =>
      member "- " depth (depth + 2) key value ++ members (depth + 1) rest
  | .scalar s => [line depth ("- " ++ scalar s)]
  | .array values => line depth ("- " ++ sized "" values.length ++ ":") :: items (depth + 1) values

end

/-- The members of every object in the order of their keys. -/
def sortKeys : Algebra Value where
  scalar := .scalar
  array := .array
  object parts := .object (parts.mergeSort fun a b => decide (a.1 ≤ b.1))

/-- A value in token-oriented notation. -/
def encode (value : Value) : String :=
  let lines :=
    match value.fold sortKeys with
    | .scalar s => [scalar s]
    | .object parts => members 0 parts
    | .array values => member "" 0 1 "" (.array values)
  "\n".intercalate lines

end EntityMapping.Toon
