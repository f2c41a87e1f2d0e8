/-
Module: EntityMapping.Schema.Operand
Purpose: Reading the expressions and arguments of an attribute. The same value may be asked for as
  an expression, as an argument or as a list of either, so each part is read once, from the leaves
  upwards, in all these roles.
Main exports: Operand, Operand.ofValue, Expr.ofTree, Argument.ofTree
-/
import EntityMapping.Decoding.Tagged
import EntityMapping.Schema.Expr

namespace EntityMapping.Schema

open Decoding
open Json (Algebra Scalar Tree Value)

/-- A value and what it says in each role. -/
structure Operand where
  value : Value
  expr : Except DecodeError Expr
  argument : Except DecodeError Argument
  exprs : Except DecodeError (List Expr)
  arguments : Except DecodeError (List Argument)

/-- The largest integer of a literal. Integers above it are read as doubles. -/
def maxInteger : Int := 0x7fffffffffffffff

/-- The literal that a value gives. -/
def Literal.ofValue : Value → Except DecodeError Literal
  | .scalar (.boolean b) => .ok (.boolean b)
  | .scalar (.number (.integer n)) =>
      if n ≤ maxInteger then .ok (.integer n)
      else
        match Binary64.ofNatural? false n.toNat with
        | some x => .ok (.float x)
        | none => .error (.noMatch "Literal")
  | .scalar (.number (.float x)) => .ok (.float x)
  | .scalar (.string s) => .ok (.text s)
  | _ => .error (.noMatch "Literal")

/-- The sorts of expression. -/
inductive ExprTag where
  | literal
  | path
  | call
  | array

/-- The tags of an expression. -/
def exprTags : Tags ExprTag where
  title := "Expr"
  known := [("literal", .literal), ("path", .path), ("functionCall", .call), ("array", .array)]
  other := none

/-- A literal expression: `value`. -/
def literalRecord : Record Operand Expr where
  title := "struct variant Expr::Literal"
  blank := default
  fields := [{ name := "value", required := true, read := fun part => do
    let value ← Literal.ofValue part.value
    return fun _ => .literal value }]

/-- A dotted name: `value`, a list of segments. -/
def pathRecord : Record Operand Expr where
  title := "struct variant Expr::Path"
  blank := default
  fields := [{ name := "value", required := true, read := fun part => do
    let segments ← list text part.value
    return fun _ => .path segments }]

/-- A call: `path`, and `args` or none. -/
def callRecord : Record Operand (List String × List Argument) where
  title := "struct variant Expr::FunctionCall"
  blank := ([], [])
  fields := [
    { name := "path", required := true, read := fun part => do
        let callee ← list text part.value
        return fun (_, args) => (callee, args) },
    { name := "args", required := false, read := fun part => do
        let args ← part.arguments
        return fun (callee, _) => (callee, args) }]

/-- A list expression: `items`. -/
def arrayRecord : Record Operand Expr where
  title := "struct variant Expr::Array"
  blank := default
  fields := [{ name := "items", required := true, read := fun part => do
    let items ← part.exprs
    return fun _ => .array items }]

/-- The expression that the parts of a node of a given sort make. -/
def Expr.ofBody (body : Body Operand) : ExprTag → Except DecodeError Expr
  | .literal => literalRecord.ofBody body
  | .path => pathRecord.ofBody body
  | .call => do
      let (callee, args) ← callRecord.ofBody body
      return .call callee args
  | .array => arrayRecord.ofBody body

/-- A named argument: `name` and `expression`. -/
def namedRecord : Record Operand (String × Expr) where
  title := "struct NamedArgument"
  blank := ("", default)
  fields := [
    { name := "name", required := true, read := fun part => do
        let name ← text part.value
        return fun (_, expression) => (name, expression) },
    { name := "expression", required := true, read := fun part => do
        let expression ← part.expr
        return fun (name, _) => (name, expression) }]

/-- A value is a named argument if it can be read as one, else a positional one. What was wrong
with either reading is not told. -/
def Argument.ofReadings (named : Except DecodeError (String × Expr))
    (expr : Except DecodeError Expr) : Except DecodeError Argument :=
  match named, expr with
  | .ok (name, expression), _ => .ok (.named name expression)
  | .error _, .ok expression => .ok (.positional expression)
  | .error _, .error _ => .error (.noMatch "AttributeArg")

namespace Operand

/-- A scalar is neither an expression nor an argument. -/
def ofScalar (s : Scalar) : Operand where
  value := .scalar s
  expr := .error (.wrongType (.scalar s) exprTags.expected)
  argument := .error (.noMatch "AttributeArg")
  exprs := .error (.wrongType (.scalar s) "a sequence")
  arguments := .error (.wrongType (.scalar s) "a sequence")

/-- An array is a list of expressions or arguments, or a node with its tag in front, or a named
argument by place. -/
def ofElements (parts : List Operand) : Operand :=
  let expr := do
    let (tag, body) ← exprTags.ofElements Operand.value parts
    Expr.ofBody body tag
  { value := .array (parts.map Operand.value)
    expr := expr
    argument := Argument.ofReadings (namedRecord.ofElements parts) expr
    exprs := parts.mapM Operand.expr
    arguments := parts.mapM Operand.argument }

/-- An object is a node with its tag in a member, or a named argument. -/
def ofMembers (parts : List (String × Operand)) : Operand :=
  let expr := do
    let (tag, body) ← exprTags.ofMembers Operand.value parts
    Expr.ofBody body tag
  { value := .object (parts.map fun (name, part) => (name, part.value))
    expr := expr
    argument := Argument.ofReadings (namedRecord.ofMembers parts) expr
    exprs := .error (.wrongType .map "a sequence")
    arguments := .error (.wrongType .map "a sequence") }

/-- Reads every part of a value in all its roles. -/
def algebra : Algebra Operand where
  scalar := ofScalar
  array := ofElements
  object := ofMembers

/-- What a value says in each role. -/
def ofValue (value : Value) : Operand :=
  value.fold algebra

end Operand

/-- The parts of a node as operands. -/
def operandBody : Body Value → Body Operand
  | .members parts => .members (parts.map fun (name, value) => (name, Operand.ofValue value))
  | .elements parts => .elements (parts.map Operand.ofValue)

/-- The expression of a tree. -/
def Expr.ofTree (room : Nat) (tree : Tree) : Except DecodeError Expr := do
  let (tag, body) ← exprTags.ofTree room tree
  Expr.ofBody (operandBody body) tag

/-- The argument of a tree. The whole tree is read before it is judged. -/
def Argument.ofTree (room : Nat) (tree : Tree) : Except DecodeError Argument := do
  let value ← orMalformed (tree.read room)
  (Operand.ofValue value).argument

end EntityMapping.Schema
