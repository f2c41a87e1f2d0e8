/-
Module: EntityMapping.Proofs.ExpressionReading
Purpose: Every way of writing an expression or an argument is read back as that expression or
  argument, by induction on the written form.
Main exports: Algebra.Rebuilds, Value.fold_rebuilds, ListMember.ofMembers, Expr.Written.expr,
  Argument.Written.argument, ArgumentsWritten.arguments
-/
import EntityMapping.Proofs.TreeReading
import EntityMapping.Proofs.WrittenSchema

namespace EntityMapping

/-! ### Values rebuilt by a traversal -/

namespace Json

/-- What the traversal makes of a value still holds that value. -/
structure Algebra.Rebuilds {α : Type} (f : Algebra α) (value : α → Value) : Prop where
  scalar : ∀ s, value (f.scalar s) = .scalar s
  array : ∀ parts, value (f.array parts) = .array (parts.map value)
  object : ∀ parts,
    value (f.object parts) = .object (parts.map fun (name, part) => (name, value part))

mutual

theorem Value.fold_rebuilds {α : Type} {f : Algebra α} {value : α → Value}
    (rebuilds : f.Rebuilds value) : ∀ v : Value, value (v.fold f) = v
  | .scalar s => by rw [Value.fold, rebuilds.scalar]
  | .array elements => by rw [Value.fold, rebuilds.array, map_foldElements rebuilds elements]
  | .object members => by rw [Value.fold, rebuilds.object, map_foldMembers rebuilds members]

theorem map_foldElements {α : Type} {f : Algebra α} {value : α → Value}
    (rebuilds : f.Rebuilds value) :
    ∀ elements : List Value, (foldElements f elements).map value = elements
  | [] => rfl
  | element :: rest => by
      rw [foldElements, List.map_cons, Value.fold_rebuilds rebuilds element,
        map_foldElements rebuilds rest]

theorem map_foldMembers {α : Type} {f : Algebra α} {value : α → Value}
    (rebuilds : f.Rebuilds value) :
    ∀ members : List (String × Value),
      (foldMembers f members).map (fun (name, part) => (name, value part)) = members
  | [] => rfl
  | (name, member) :: rest => by
      rw [foldMembers, List.map_cons, map_foldMembers rebuilds rest]
      simp only [Value.fold_rebuilds rebuilds member]

end

end Json

namespace Schema

open Decoding
open Json (Value foldElements_eq_map foldMembers_eq_map)

/-! ### Parts of nodes -/

theorem list_text_strings (texts : List String) : list text (strings texts) = .ok texts :=
  list_of_forall₂ (List.forall₂_map_right_iff.mpr (List.forall₂_same.mpr fun _ _ => rfl))

theorem ListMember.not_mem {key name : String} {values : List Value}
    {given : List (String × Value)} (member : ListMember key values given)
    (different : name ≠ key) : name ∉ given.map Prod.fst := by
  cases member with
  | written => simpa using different
  | omitted => simp

/-- What a field makes of the record comes from the value that was read. -/
theorem put_of_read {α β : Type} {x : Except DecodeError α} {f : α → β} {put : β}
    (read : (do let a ← x; return f a) = Except.ok put) : ∃ a, f a = put := by
  cases x with
  | error cause => nomatch read
  | ok a => exact ⟨a, Except.ok.inj read⟩

/-- A record of one field and of a list that may be left out is read from every object that has
them. -/
theorem ListMember.ofMembers {α γ δ : Type} {r : Record Value α} {name key : String}
    {read : Value → Except DecodeError γ} {readList : Value → Except DecodeError (List δ)}
    {put : γ → α → α} {putList : List δ → α → α} {values : List Value}
    {listed : List (String × Value)} (member : ListMember key values listed)
    (fields : r.fields = [
      { name, required := true, read := fun part => do
          let c ← read part
          return put c },
      { name := key, required := false, read := fun part => do
          let items ← readList part
          return putList items }])
    (different : name ≠ key)
    (commute : ∀ c items a, put c (putList items a) = putList items (put c a))
    (blank : ∀ c, putList [] (put c r.blank) = put c r.blank)
    {value : Value} {c : γ} {items : List δ} (given : read value = .ok c)
    (givenList : readList (.array values) = .ok items) (nil : readList (.array []) = .ok [])
    {parts : List (String × Value)}
    (arranged : Arranged [name, key] ((name, value) :: listed) parts) :
    r.ofMembers parts = .ok (putList items (put c r.blank)) := by
  have independent : r.Independent := by
    rw [Record.Independent, fields]
    refine List.pairwise_pair.mpr fun part part' first second read read' a => ?_
    obtain ⟨c, rfl⟩ := put_of_read read
    obtain ⟨items, rfl⟩ := put_of_read read'
    exact commute c items a
  have names : r.fields.map (·.name) = [name, key] := by rw [fields]; rfl
  refine Record.ofMembers_of_arranged independent (names ▸ arranged) ?_
  cases member with
  | written =>
      simp [Record.ofMembers, Record.readMembers, Record.field?, Record.finish, fields, different,
        different.symm, given, givenList, bind, Except.bind, pure, Except.pure]
  | omitted =>
      have none : [] = items := Except.ok.inj (nil.symm.trans givenList)
      simp [Record.ofMembers, Record.readMembers, Record.field?, Record.finish, fields,
        given, ← none, blank, bind, Except.bind, pure, Except.pure]

/-! ### Operands -/

theorem Operand.algebra_rebuilds : algebra.Rebuilds Operand.value where
  scalar _ := rfl
  array _ := rfl
  object _ := rfl

theorem Operand.value_ofValue (v : Value) : (ofValue v).value = v :=
  Value.fold_rebuilds algebra_rebuilds v

theorem Operand.ofValue_array (elements : List Value) :
    ofValue (.array elements) = ofElements (elements.map ofValue) := by
  rw [ofValue, Value.fold, foldElements_eq_map]
  rfl

theorem Operand.exprs_array (values : List Value) :
    (ofValue (.array values)).exprs = (values.map ofValue).mapM Operand.expr := by
  rw [ofValue_array]
  rfl

theorem Operand.arguments_array (values : List Value) :
    (ofValue (.array values)).arguments = (values.map ofValue).mapM Operand.argument := by
  rw [ofValue_array]
  rfl

theorem Operand.ofValue_object (members : List (String × Value)) :
    ofValue (.object members) =
      ofMembers (members.map fun (name, value) => (name, ofValue value)) := by
  rw [ofValue, Value.fold, foldMembers_eq_map]
  rfl

theorem Operand.argument_ofMembers (parts : List (String × Operand)) :
    (ofMembers parts).argument =
      Argument.ofReadings (namedRecord.ofMembers parts) (ofMembers parts).expr :=
  rfl

/-! ### Expressions -/

theorem namedRecord_independent : (namedRecord.comap Operand.ofValue).Independent := by
  refine List.pairwise_pair.mpr fun part part' put put' read read' a => ?_
  obtain ⟨name, rfl⟩ := put_of_read read
  obtain ⟨expression, rfl⟩ := put_of_read read'
  rfl

theorem Literal.Written.ofValue {literal : Literal} {value : Value}
    (written : literal.Written value) : Literal.ofValue value = .ok literal := by
  cases written with
  | boolean => rfl
  | integer inRange => exact if_pos inRange
  | float => rfl
  | text => rfl

theorem namedRecord_ofMembers (name : String) {expression : Expr} {value : Value}
    (read : (Operand.ofValue value).expr = .ok expression) :
    (namedRecord.comap Operand.ofValue).ofMembers
        [("name", .string name), ("expression", value)] = .ok (name, expression) := by
  have text_name : text (Operand.ofValue (.string name)).value = .ok name := rfl
  simp [Record.ofMembers, Record.readMembers, Record.field?, Record.finish, Record.comap,
    namedRecord, text_name, read, bind, Except.bind, pure, Except.pure]

/-- An object that lacks a member of a named argument is not one. -/
theorem exists_error_of_unnamed {parts : List (String × Value)}
    (unnamed : ¬("name" ∈ parts.map Prod.fst ∧ "expression" ∈ parts.map Prod.fst)) :
    ∃ cause, (namedRecord.comap Operand.ofValue).ofMembers parts = .error cause := by
  cases read : (namedRecord.comap Operand.ofValue).ofMembers parts with
  | error cause => exact ⟨cause, rfl⟩
  | ok named =>
      have present {f : Decoding.Field Value (String × Expr)}
          (hf : f ∈ (namedRecord.comap Operand.ofValue).fields) (required : f.required = true) :
          f.name ∈ parts.map Prod.fst :=
        (Record.name_mem_of_readMembers read hf required).resolve_left List.not_mem_nil
      exact absurd ⟨present List.mem_cons_self rfl,
        present (List.mem_cons_of_mem _ List.mem_cons_self) rfl⟩ unnamed

theorem Expr.Written.expr_of_node {name : String} {tag : ExprTag} {fields : List String}
    {given parts : List (String × Value)} (node : Node name fields given parts)
    (untagged : tagKey ∉ given.map Prod.fst) (named : exprTags.ofName name = .ok tag) :
    ∃ others, (Operand.ofValue (.object parts)).expr =
        Expr.ofBody (.members (others.map fun (name, part) => (name, Operand.ofValue part))) tag ∧
      Arranged fields given others := by
  obtain ⟨others, tagged, arranged⟩ := Tags.ofMembers_map_of_arranged Operand.value
    Operand.ofValue node untagged (Operand.value_ofValue _) named
  refine ⟨others, ?_, arranged⟩
  rw [Operand.ofValue_object, Operand.ofMembers, tagged]
  rfl

-- The induction is on the written form: each relation of the mutual family gets its own theorem.
mutual

/-- Every way of writing an expression is read as that expression. -/
theorem Expr.Written.expr {expression : Expr} {value : Value}
    (written : expression.Written value) : (Operand.ofValue value).expr = .ok expression := by
  cases written with
  | @literal literal value _ written node =>
      obtain ⟨others, read, arranged⟩ := Expr.Written.expr_of_node node (by simp [tagKey]) rfl
      have given : Literal.ofValue (Operand.ofValue value).value = .ok literal := by
        rw [Operand.value_ofValue, written.ofValue]
      rw [read, Expr.ofBody, Record.ofBody, Record.ofMembers_map]
      exact Record.ofMembers_of_single rfl arranged given
  | @path segments _ node =>
      obtain ⟨others, read, arranged⟩ := Expr.Written.expr_of_node node (by simp [tagKey]) rfl
      have given : list text (Operand.ofValue (strings segments)).value = .ok segments := by
        rw [Operand.value_ofValue, list_text_strings]
      rw [read, Expr.ofBody, Record.ofBody, Record.ofMembers_map]
      exact Record.ofMembers_of_single rfl arranged given
  | @call callee args values _ _ written member node =>
      obtain ⟨others, read, arranged⟩ := Expr.Written.expr_of_node node
        (by simp [tagKey, member.not_mem]) rfl
      have given : list text (Operand.ofValue (strings callee)).value = .ok callee := by
        rw [Operand.value_ofValue, list_text_strings]
      have givenList : (Operand.ofValue (.array values)).arguments = .ok args := by
        rw [Operand.arguments_array, written.arguments]
      have call := member.ofMembers (r := callRecord.comap Operand.ofValue) rfl (by decide)
        (fun _ _ _ => rfl) (fun _ => rfl) given givenList rfl arranged
      rw [read, Expr.ofBody, Record.ofBody, Record.ofMembers_map, call]
      rfl
  | @array items values _ written node =>
      obtain ⟨others, read, arranged⟩ := Expr.Written.expr_of_node node (by simp [tagKey]) rfl
      have given : (Operand.ofValue (.array values)).exprs = .ok items := by
        rw [Operand.exprs_array, written.exprs]
      rw [read, Expr.ofBody, Record.ofBody, Record.ofMembers_map]
      exact Record.ofMembers_of_single rfl arranged given

/-- Every way of writing an argument is read as that argument. -/
theorem Argument.Written.argument {arg : Argument} {value : Value}
    (written : arg.Written value) : (Operand.ofValue value).argument = .ok arg := by
  cases written with
  | @named name _ _ _ written arranged =>
      have given := namedRecord_ofMembers name written.expr
      rw [Operand.ofValue_object, Operand.argument_ofMembers, Record.ofMembers_map,
        Record.ofMembers_of_arranged namedRecord_independent arranged given]
      rfl
  | positional written unnamed =>
      have expr := written.expr
      -- The trial of a named argument comes first, and fails.
      obtain ⟨cause, refused⟩ := exists_error_of_unnamed unnamed
      rw [Operand.ofValue_object] at expr ⊢
      rw [Operand.argument_ofMembers, Record.ofMembers_map, refused, expr]
      rfl

theorem ExprsWritten.exprs {items : List Expr} {values : List Value}
    (written : ExprsWritten items values) :
    (values.map Operand.ofValue).mapM Operand.expr = .ok items := by
  cases written with
  | nil => rfl
  | cons first rest =>
      rw [List.map_cons, List.mapM_cons, first.expr, rest.exprs]
      rfl

theorem ArgumentsWritten.arguments {args : List Argument} {values : List Value}
    (written : ArgumentsWritten args values) :
    (values.map Operand.ofValue).mapM Operand.argument = .ok args := by
  cases written with
  | nil => rfl
  | cons first rest =>
      rw [List.map_cons, List.mapM_cons, first.argument, rest.arguments]
      rfl

end

end Schema

end EntityMapping
