/-
Module: EntityMapping.Text.Quoted
Purpose: A text as a message shows it: between quotation marks, with escapes for what would end
  the quotation or would not be seen.
Main exports: quoted
-/
import EntityMapping.Text.Invisible

namespace EntityMapping.Text

/-- One character inside a quotation. -/
def quotedChar : Char → String
  | '"' => "\\\""
  | '\\' => "\\\\"
  | '\t' => "\\t"
  | '\r' => "\\r"
  | '\n' => "\\n"
  | '\x00' => "\\0"
  | c =>
      if isInvisible c then
        "\\u\x7b" ++ String.ofList (Nat.toDigits 16 c.toNat) ++ "\x7d"
      else String.singleton c

/-- A text between quotation marks. -/
def quoted (text : String) : String :=
  "\"" ++ String.join (text.toList.map quotedChar) ++ "\""

example : quoted "a\"b" = "\"a\\\"b\"" := by decide +kernel
example : quoted "\uff76\uff9e" = "\"\uff76\uff9e\"" := by decide +kernel
example : quoted "e\u0301" = "\"e\\u\x7b301\x7d\"" := by decide +kernel

end EntityMapping.Text
