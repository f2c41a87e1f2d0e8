/-
Module: EntityMapping.Json.Token
Purpose: The tokens of a JSON text. A token that is complete but has no value (a number too
  large, half a surrogate pair) is kept as such, since a reader may pass over it; a token that
  breaks off is the last one.
Main exports: Lexeme, Token, Token.ofText
-/
import EntityMapping.Json.Fault
import EntityMapping.Json.Value
import EntityMapping.Number.Scaling

namespace EntityMapping.Json

/-- What the characters of one token come to. -/
inductive Lexeme (α : Type) where
  | whole (value : α)
  | unreadable (fault : Fault)
  | broken (stop : Stop)
deriving Repr

namespace Lexeme

variable {α β : Type}

/-- The lexeme of `f value`. -/
def map (f : α → β) : Lexeme α → Lexeme β
  | .whole value => .whole (f value)
  | .unreadable fault => .unreadable fault
  | .broken stop => .broken stop

end Lexeme

/-- A token. `stray` is a character that starts none. -/
inductive Token where
  | openList
  | closeList
  | openObject
  | closeObject
  | comma
  | colon
  | scalar (lexeme : Lexeme Scalar)
  | string (lexeme : Lexeme String)
  | stray
deriving Repr

/-! ### Words -/

/-- Reads the rest of a word that spells `value`. -/
def readWord (value : Scalar) : List Char → List Char → Lexeme Scalar × List Char
  | [], text => (.whole value, text)
  | _ :: _, [] => (.broken (.both .endInValue), [])
  | expected :: word, c :: text =>
      if c = expected then readWord value word text
      else (.broken (.both .wordExpected), text)

theorem length_readWord_le (value : Scalar) (word text : List Char) :
    (readWord value word text).2.length ≤ text.length := by
  induction word generalizing text with
  | nil => simp [readWord]
  | cons expected word ih =>
      cases text with
      | nil => simp [readWord]
      | cons c text =>
          simp only [readWord]
          split
          · exact Nat.le_succ_of_le (ih text)
          · simp

/-! ### Numbers -/

/-- The fault where digits are missing: a reader that passes over the number does not tell the
end of the text from another character. -/
def missingDigits (rest : List Char) : Stop :=
  if rest.isEmpty then { read := .endInValue, skipped := .invalidNumber }
  else .both .invalidNumber

/-- The values of decimal digits. -/
def digitValues (digits : List Char) : List Nat :=
  digits.map fun c => c.toNat - '0'.toNat

/-- The number that a run of decimal digits spells. -/
def digitsValue (digits : List Char) : Nat :=
  (digitValues digits).foldl (fun n digit => 10 * n + digit) 0

/-- A number as it is spelled: the digits before and after the point, and the exponent. A part
that is not written is absent. -/
structure NumberSpelling where
  negative : Bool
  whole : List Char
  fraction : Option (List Char)
  exponent : Option Int

/-- The value of a spelled number. Without point and exponent it is an integer if it fits 64
bits, except that `-0` keeps its sign as a double; everything else is a double, computed from the
digits that are kept. -/
def NumberSpelling.value (s : NumberSpelling) : Lexeme Number :=
  let n := digitsValue s.whole
  let exact : Option Int :=
    if s.fraction.isSome || s.exponent.isSome then none
    else if s.negative then
      if 0 < n ∧ n ≤ Nat.pow 2 63 then some (-(n : Int)) else none
    else if n < UInt64.size then some n
    else none
  match exact with
  | some n => .whole (.integer n)
  | none =>
      let kept := Mantissa.ofDigits (digitValues s.whole) (digitValues (s.fraction.getD []))
      match Binary64.ofScaled? s.negative kept.significand (kept.power + s.exponent.getD 0) with
      | some x => .whole (.float x)
      | none => .unreadable .numberOutOfRange

/-- Reads the digits of an exponent and closes the number. -/
def readExponentDigits (s : NumberSpelling) (sign : Int) (text : List Char) :
    Lexeme Number × List Char :=
  let digits := text.takeWhile Char.isDigit
  let rest := text.dropWhile Char.isDigit
  if digits.isEmpty then (.broken (missingDigits rest), rest)
  else ({ s with exponent := some (sign * digitsValue digits) }.value, rest)

/-- Reads an optional exponent and closes the number. -/
def readExponent (s : NumberSpelling) : List Char → Lexeme Number × List Char
  | [] => (s.value, [])
  | c :: rest =>
      if c = 'e' ∨ c = 'E' then
        match rest with
        | '+' :: rest => readExponentDigits s 1 rest
        | '-' :: rest => readExponentDigits s (-1) rest
        | rest => readExponentDigits s 1 rest
      else (s.value, c :: rest)

/-- Reads a number after its optional minus sign. -/
def readNumber (negative : Bool) (text : List Char) : Lexeme Number × List Char :=
  let whole := text.takeWhile Char.isDigit
  let rest := text.dropWhile Char.isDigit
  let spelling : NumberSpelling :=
    { negative := negative, whole := whole, fraction := none, exponent := none }
  match whole with
  | [] => (.broken (missingDigits rest), rest)
  | '0' :: _ :: _ => (.broken (.both .invalidNumber), rest)
  | _ =>
      match rest with
      | '.' :: rest =>
          let fraction := rest.takeWhile Char.isDigit
          let rest := rest.dropWhile Char.isDigit
          if fraction.isEmpty then (.broken (missingDigits rest), rest)
          else readExponent { spelling with fraction := some fraction } rest
      | rest => readExponent spelling rest

theorem length_dropWhile_le {α : Type} (p : α → Bool) (l : List α) :
    (l.dropWhile p).length ≤ l.length :=
  (List.dropWhile_sublist p).length_le

theorem length_readExponentDigits_le (s : NumberSpelling) (sign : Int) (text : List Char) :
    (readExponentDigits s sign text).2.length ≤ text.length := by
  unfold readExponentDigits
  dsimp only
  split <;> exact length_dropWhile_le _ _

theorem length_readExponent_le (s : NumberSpelling) (text : List Char) :
    (readExponent s text).2.length ≤ text.length := by
  unfold readExponent
  split
  · simp
  · split
    · split <;> exact Nat.le_trans (length_readExponentDigits_le _ _ _) (by simp <;> omega)
    · simp

theorem length_readNumber_le (negative : Bool) (text : List Char) :
    (readNumber negative text).2.length ≤ (text.dropWhile Char.isDigit).length := by
  have bound := length_dropWhile_le Char.isDigit
  unfold readNumber
  dsimp only
  split
  · exact Nat.le_refl _
  · exact Nat.le_refl _
  · split
    · rename_i rest dropped
      rw [dropped, List.length_cons]
      have sooner := bound rest
      split
      · dsimp only; omega
      · exact Nat.le_trans (length_readExponent_le _ _) (by omega)
    · exact length_readExponent_le _ _

/-! ### Strings -/

/-- The value of a hexadecimal digit. -/
def hexDigit? (c : Char) : Option Nat :=
  if c.isDigit then some (c.toNat - '0'.toNat)
  else if 'a' ≤ c ∧ c ≤ 'f' then some (c.toNat - 'a'.toNat + 10)
  else if 'A' ≤ c ∧ c ≤ 'F' then some (c.toNat - 'A'.toNat + 10)
  else none

/-- The 16-bit unit that four hexadecimal digits spell. -/
def hexUnit? (a b c d : Char) : Option Nat := do
  let a ← hexDigit? a
  let b ← hexDigit? b
  let c ← hexDigit? c
  let d ← hexDigit? d
  return ((a * 16 + b) * 16 + c) * 16 + d

/-- The character that follows a backslash in a short escape. -/
def shortEscape? : Char → Option Char
  | '"' => some '"'
  | '\\' => some '\\'
  | '/' => some '/'
  | 'b' => some '\x08'
  | 'f' => some '\x0c'
  | 'n' => some '\n'
  | 'r' => some '\r'
  | 't' => some '\t'
  | _ => none

/-- A string part way through: its characters so far, last first, a leading surrogate that
waits for the trailing one, and the first fault of a reader that wants the text. -/
structure StringSoFar where
  reversed : List Char
  leading : Option Nat
  fault : Option Fault

namespace StringSoFar

/-- Nothing read yet. -/
def empty : StringSoFar :=
  { reversed := [], leading := none, fault := none }

/-- Records a fault unless there is an earlier one. -/
def blame (s : StringSoFar) (fault : Fault) : StringSoFar :=
  { s with leading := none, fault := s.fault.or (some fault) }

/-- Gives up on a waiting surrogate, since something other than a unit follows. -/
def settle (s : StringSoFar) : StringSoFar :=
  if s.leading.isSome then s.blame .halfSurrogatePair else s

/-- Adds a character. -/
def char (s : StringSoFar) (c : Char) : StringSoFar :=
  let s := s.settle
  { s with reversed := c :: s.reversed }

/-- Adds a 16-bit unit: a character, or one half of a surrogate pair. -/
def unit (s : StringSoFar) (n : Nat) : StringSoFar :=
  let isTrailing := 0xDC00 ≤ n ∧ n ≤ 0xDFFF
  match s.leading with
  | some high =>
      if isTrailing then
        let code := 0x10000 + (high - 0xD800) * 0x400 + (n - 0xDC00)
        { s with reversed := Char.ofNat code :: s.reversed, leading := none }
      else s.blame .loneSurrogate
  | none =>
      if isTrailing then s.blame .loneSurrogate
      else if 0xD800 ≤ n ∧ n ≤ 0xDBFF then { s with leading := some n }
      else { s with reversed := Char.ofNat n :: s.reversed }

/-- The string ends here. -/
def finish (s : StringSoFar) : Lexeme String :=
  let s := s.settle
  match s.fault with
  | some fault => .unreadable fault
  | none => .whole (String.ofList s.reversed.reverse)

/-- The text breaks off here. -/
def stop (s : StringSoFar) (fault : Fault) : Lexeme String :=
  .broken { read := s.fault.getD fault, skipped := fault }

end StringSoFar

/-- The fault of a `\u` without four hexadecimal digits: the end of the text, if fewer than four
bytes are left of it. -/
def hexFault (rest : List Char) : Fault :=
  if (String.ofList rest).utf8ByteSize < 4 then .endInString else .invalidEscape

/-- Reads a string after its opening quotation mark. -/
def readString (s : StringSoFar) : List Char → Lexeme String × List Char
  | [] => (s.stop .endInString, [])
  | '"' :: rest => (s.finish, rest)
  | '\\' :: 'u' :: a :: b :: c :: d :: rest =>
      match hexUnit? a b c d with
      | some n => readString (s.unit n) rest
      | none => (s.stop .invalidEscape, rest)
  | '\\' :: 'u' :: rest => (s.stop (hexFault rest), [])
  | '\\' :: e :: rest =>
      match shortEscape? e with
      | some c => readString (s.char c) rest
      | none => (s.settle.stop .invalidEscape, rest)
  | ['\\'] => (s.stop .endInString, [])
  | c :: rest =>
      if c.toNat < 0x20 then (s.settle.stop .controlCharacter, rest)
      else readString (s.char c) rest

theorem length_readString_le (s : StringSoFar) (text : List Char) :
    (readString s text).2.length ≤ text.length := by
  fun_induction readString s text <;> simp_all <;> omega

/-! ### The tokens of a text -/

/-- The token of a character that is one by itself. -/
def punctuation? : Char → Option Token
  | '[' => some .openList
  | ']' => some .closeList
  | '{' => some .openObject
  | '}' => some .closeObject
  | ',' => some .comma
  | ':' => some .colon
  | _ => none

/-- Reads the token that starts with `c` and is longer than it. -/
def readToken (c : Char) (text : List Char) : Token × List Char :=
  let scalar (read : Lexeme Scalar × List Char) : Token × List Char := (.scalar read.1, read.2)
  let number (read : Lexeme Number × List Char) : Token × List Char :=
    (.scalar (read.1.map .number), read.2)
  if c = '"' then
    let read := readString .empty text
    (.string read.1, read.2)
  else if c = 'n' then scalar (readWord .null "ull".toList text)
  else if c = 't' then scalar (readWord (.boolean true) "rue".toList text)
  else if c = 'f' then scalar (readWord (.boolean false) "alse".toList text)
  else if c = '-' then number (readNumber true text)
  else (.stray, text)

theorem length_readToken_le (c : Char) (text : List Char) :
    (readToken c text).2.length ≤ text.length := by
  unfold readToken
  dsimp only
  repeat' split
  all_goals first
    | exact length_readString_le _ _
    | exact length_readWord_le _ _ _
    | exact Nat.le_trans (length_readNumber_le _ _) (length_dropWhile_le _ _)
    | exact Nat.le_refl _

/-- Whether nothing can be read after this token. -/
def Token.isLast : Token → Bool
  | .scalar (.broken _) => true
  | .string (.broken _) => true
  | .stray => true
  | _ => false

/-- The tokens of a text, up to the first that breaks off. -/
def Token.ofChars (text : List Char) : List Token :=
  match text with
  | [] => []
  | c :: rest =>
      if c.isWhitespace then ofChars rest
      else
        match punctuation? c with
        | some token => token :: ofChars rest
        | none =>
            if c.isDigit then
              let read := readNumber false (c :: rest)
              let token := Token.scalar (read.1.map .number)
              if token.isLast then [token] else token :: ofChars read.2
            else
              let read := readToken c rest
              if read.1.isLast then [read.1] else read.1 :: ofChars read.2
termination_by text.length
decreasing_by
  · simp
  · simp
  · rename_i digit _
    have shorter := length_readNumber_le false (c :: rest)
    have fewer := length_dropWhile_le Char.isDigit rest
    rw [List.dropWhile_cons_of_pos digit] at shorter
    simp only [List.length_cons]
    omega
  · have shorter := length_readToken_le c rest
    simp only [List.length_cons]
    omega

/-- The tokens of a text. -/
def Token.ofText (text : String) : List Token :=
  ofChars text.toList

end EntityMapping.Json
