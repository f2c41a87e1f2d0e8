/-
Module: EntityMapping.Proofs.WrittenSchema
Purpose: How a schema is written as a JSON value, as a relation of its own beside the reader. A node
  is an object that carries a tag; its members stand in any order with further members between
  them, and a list that is empty may be left out.
Main exports: Node, ListMember, Literal.Written, Expr.Written, Argument.Written, FieldType.Written,
  Attribute.Written, Field.Given, Member.Written, EnumItem.Written, Declaration.Written,
  Schema.Written
-/
import EntityMapping.Proofs.Arrangement
import EntityMapping.Schema.Basic
import EntityMapping.Schema.Operand
import Mathlib.Data.List.Forall2

namespace EntityMapping.Schema

open Decoding
open Json (Value)

/-! ### Objects -/

/-- The parts of an object with a tag and the given members. A further member may have any name
but that of the tag and of the fields. -/
def Node (tag : String) (fields : List String) (given parts : List (String × Value)) : Prop :=
  Arranged (tagKey :: fields) ((tagKey, .string tag) :: given) parts

/-- The member that holds a list. -/
inductive ListMember (key : String) : List Value → List (String × Value) → Prop where
  | written (values : List Value) : ListMember key values [(key, .array values)]
  | omitted : ListMember key [] []

/-- A list of strings. -/
def strings (texts : List String) : Value :=
  .array (texts.map Value.string)

/-! ### Expressions -/

/-- How a literal stands in a value. An integer above `maxInteger` would be read as a double. -/
inductive Literal.Written : Literal → Value → Prop where
  | boolean (b : Bool) : Written (.boolean b) (.boolean b)
  | integer {n : Int} (inRange : n ≤ maxInteger) :
      Written (.integer n) (.scalar (.number (.integer n)))
  | float (x : Binary64) : Written (.float x) (.scalar (.number (.float x)))
  | text (s : String) : Written (.text s) (.string s)

mutual

/-- How an expression is written. -/
inductive Expr.Written : Expr → Value → Prop where
  | literal {literal : Literal} {value : Value} {parts : List (String × Value)}
      (written : literal.Written value) (node : Node "literal" ["value"] [("value", value)] parts) :
      Expr.Written (.literal literal) (.object parts)
  | path {segments : List String} {parts : List (String × Value)}
      (node : Node "path" ["value"] [("value", strings segments)] parts) :
      Expr.Written (.path segments) (.object parts)
  | call {callee : List String} {args : List Argument} {values : List Value}
      {listed parts : List (String × Value)} (written : ArgumentsWritten args values)
      (member : ListMember "args" values listed)
      (node : Node "functionCall" ["path", "args"] (("path", strings callee) :: listed) parts) :
      Expr.Written (.call callee args) (.object parts)
  | array {items : List Expr} {values : List Value} {parts : List (String × Value)}
      (written : ExprsWritten items values)
      (node : Node "array" ["items"] [("items", .array values)] parts) :
      Expr.Written (.array items) (.object parts)

/-- How an argument is written. A positional one is its expression, as long as its members are not
also those of a named one. -/
inductive Argument.Written : Argument → Value → Prop where
  | named {name : String} {expression : Expr} {value : Value} {parts : List (String × Value)}
      (written : expression.Written value)
      (arranged : Arranged ["name", "expression"] [("name", .string name), ("expression", value)]
        parts) :
      Argument.Written (.named name expression) (.object parts)
  | positional {expression : Expr} {parts : List (String × Value)}
      (written : expression.Written (.object parts))
      (unnamed : ¬("name" ∈ parts.map Prod.fst ∧ "expression" ∈ parts.map Prod.fst)) :
      Argument.Written (.positional expression) (.object parts)

/-- How the items of a list expression are written, one by one. -/
inductive ExprsWritten : List Expr → List Value → Prop where
  | nil : ExprsWritten [] []
  | cons {item : Expr} {value : Value} {items : List Expr} {values : List Value}
      (first : item.Written value) (rest : ExprsWritten items values) :
      ExprsWritten (item :: items) (value :: values)

/-- How some arguments are written, one by one. -/
inductive ArgumentsWritten : List Argument → List Value → Prop where
  | nil : ArgumentsWritten [] []
  | cons {arg : Argument} {value : Value} {args : List Argument} {values : List Value}
      (first : arg.Written value) (rest : ArgumentsWritten args values) :
      ArgumentsWritten (arg :: args) (value :: values)

end

/-! ### Types, attributes and fields -/

/-- How a type is written. -/
inductive FieldType.Written : FieldType → Value → Prop where
  | named {name : String} {parts : List (String × Value)}
      (node : Node "typeId" ["name"] [("name", .string name)] parts) :
      Written (.named name) (.object parts)
  | optional {inner : FieldType} {value : Value} {parts : List (String × Value)}
      (written : inner.Written value) (node : Node "optional" ["type"] [("type", value)] parts) :
      Written (.optional inner) (.object parts)
  | list {inner : FieldType} {value : Value} {parts : List (String × Value)}
      (written : inner.Written value) (node : Node "list" ["type"] [("type", value)] parts) :
      Written (.list inner) (.object parts)

/-- The members that give an attribute. -/
inductive Attribute.Given : Attribute → List (String × Value) → Prop where
  | intro {path : List String} {args : List Argument} {values : List Value}
      {listed : List (String × Value)} (written : ArgumentsWritten args values)
      (member : ListMember "args" values listed) :
      Given { path, args } (("path", strings path) :: listed)

/-- How an attribute of a field is written: it carries no tag. -/
inductive Attribute.Written : Attribute → Value → Prop where
  | object {attr : Attribute} {given parts : List (String × Value)} (members : attr.Given given)
      (arranged : Arranged ["path", "args"] given parts) :
      Written attr (.object parts)

/-- The members that give a field. -/
inductive Field.Given : Field → List (String × Value) → Prop where
  | intro {name : String} {type : FieldType} {attributes : List Attribute} {value : Value}
      {values : List Value} {listed : List (String × Value)} (typeWritten : type.Written value)
      (written : List.Forall₂ Attribute.Written attributes values)
      (member : ListMember "attributes" values listed) :
      Given { name, type, attributes } (("name", .string name) :: ("type", value) :: listed)

/-! ### Members and declarations -/

/-- How a member of a model is written. -/
inductive Member.Written : Member → Value → Prop where
  | field {f : Field} {given parts : List (String × Value)} (members : f.Given given)
      (node : Node "field" ["name", "type", "attributes"] given parts) :
      Written (.field f) (.object parts)
  | modelAttribute {attr : Attribute} {given parts : List (String × Value)}
      (members : attr.Given given) (node : Node "blockAttribute" ["path", "args"] given parts) :
      Written (.modelAttribute attr) (.object parts)
  | other {tag : String} {parts : List (String × Value)}
      (unknown : tag ∉ ["field", "blockAttribute"]) (node : Node tag [] [] parts) :
      Written .other (.object parts)

/-- How a member of an enumeration is written. -/
inductive EnumItem.Written : EnumItem → Value → Prop where
  | value {name : String} {parts : List (String × Value)}
      (node : Node "enumValue" ["name"] [("name", .string name)] parts) :
      Written (.value name) (.object parts)
  | other {tag : String} {parts : List (String × Value)} (unknown : tag ≠ "enumValue")
      (node : Node tag [] [] parts) :
      Written .other (.object parts)

/-- How a declaration is written. -/
inductive Declaration.Written : Declaration → Value → Prop where
  | model {name : String} {members : List Member} {values : List Value}
      {listed parts : List (String × Value)} (written : List.Forall₂ Member.Written members values)
      (member : ListMember "members" values listed)
      (node : Node "model" ["name", "members"] (("name", .string name) :: listed) parts) :
      Written (.model { name, members }) (.object parts)
  | enumeration {name : String} {members : List EnumItem} {values : List Value}
      {listed parts : List (String × Value)}
      (written : List.Forall₂ EnumItem.Written members values)
      (member : ListMember "members" values listed)
      (node : Node "enum" ["name", "members"] (("name", .string name) :: listed) parts) :
      Written (.enumeration { name, members }) (.object parts)
  | unknown {tag : String} {parts : List (String × Value)} (unknown : tag ∉ ["model", "enum"])
      (node : Node tag [] [] parts) :
      Written .unknown (.object parts)

/-- How a schema is written: the object that holds its declarations. -/
inductive Written : Schema → Value → Prop where
  | object {declarations : List Declaration} {values : List Value}
      {parts : List (String × Value)}
      (written : List.Forall₂ Declaration.Written declarations values)
      (arranged : Arranged ["declarations"] [("declarations", .array values)] parts) :
      Written { declarations } (.object parts)

end EntityMapping.Schema
