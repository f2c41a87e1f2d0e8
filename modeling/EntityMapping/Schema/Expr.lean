/-
Module: EntityMapping.Schema.Expr
Purpose: The expressions that stand in the arguments of an attribute.
Main exports: Literal, Expr, Argument, Expr.leadingName?, Expr.names?, Expr.word?
-/
import EntityMapping.Json.Value
import EntityMapping.Number.Integer
import EntityMapping.Number.Shortest

namespace EntityMapping.Schema

/-- A literal of a schema. -/
inductive Literal where
  | boolean (b : Bool)
  | integer (n : Int)
  | float (x : Binary64)
  | text (s : String)
deriving DecidableEq, Repr

/-- The text of a literal. -/
def Literal.display : Literal → String
  | .boolean true => "true"
  | .boolean false => "false"
  | .integer n => integerText n
  | .float x => x.plainText
  | .text s => s

mutual

/-- An expression: a literal, a dotted name, a call of a dotted name or a list. -/
inductive Expr where
  | literal (value : Literal)
  | path (segments : List String)
  | call (callee : List String) (args : List Argument)
  | array (items : List Expr)

/-- An argument of an attribute or of a call, as in `fields: [authorId]` or `255`. -/
inductive Argument where
  | named (name : String) (expression : Expr)
  | positional (expression : Expr)

end

instance : Inhabited Expr := ⟨.path []⟩

namespace Expr

/-- The first segment of a dotted name, called or not. -/
def leadingName? : Expr → Option String
  | .path segments => segments.head?
  | .call callee _ => callee.head?
  | _ => none

/-- The first segments of the items of a list, if every item has one. -/
def names? : Expr → Option (List String)
  | .array items => items.mapM leadingName?
  | _ => none

/-- What an expression stands for as a single word: the text of a literal, or the first segment
of a dotted name. -/
def word? : Expr → Option String
  | .literal value => some value.display
  | .path segments => segments.head?
  | .call callee _ => callee.head?
  | .array _ => none

end Expr

end EntityMapping.Schema
