/-
Module: EntityMapping.Json.Value
Purpose: JSON values in memory. Objects keep their members in the order of the text, and a key
  may stand more than once; it is for a reader to say what that means.
Main exports: Number, Scalar, Value, Value.fold
-/
import EntityMapping.Number.Binary64

namespace EntityMapping.Json

/-- A number: whole ones that fit 64 bits are kept exactly, all others as doubles. -/
inductive Number where
  | integer (n : Int)
  | float (x : Binary64)
deriving DecidableEq, Repr

/-- A value without parts. -/
inductive Scalar where
  | null
  | boolean (b : Bool)
  | number (n : Number)
  | string (text : String)
deriving DecidableEq, Repr

/-- A JSON value. -/
inductive Value where
  | scalar (s : Scalar)
  | array (elements : List Value)
  | object (members : List (String × Value))
deriving Repr

instance : Inhabited Value := ⟨.scalar .null⟩

namespace Value

/-- A string as a value. -/
def string (text : String) : Value := .scalar (.string text)

/-- A truth value as a value. -/
def boolean (b : Bool) : Value := .scalar (.boolean b)

/-- A natural number as a value. -/
def natural (n : Nat) : Value := .scalar (.number (.integer n))

end Value

/-- What a traversal makes of each sort of value, given what it made of the parts. -/
structure Algebra (α : Type) where
  scalar : Scalar → α
  array : List α → α
  object : List (String × α) → α

mutual

/-- Goes over a value from its leaves upwards. -/
def Value.fold {α : Type} (f : Algebra α) : Value → α
  | .scalar s => f.scalar s
  | .array elements => f.array (foldElements f elements)
  | .object members => f.object (foldMembers f members)

/-- Goes over the elements of a list. -/
def foldElements {α : Type} (f : Algebra α) : List Value → List α
  | [] => []
  | value :: rest => value.fold f :: foldElements f rest

/-- Goes over the members of an object. -/
def foldMembers {α : Type} (f : Algebra α) : List (String × Value) → List (String × α)
  | [] => []
  | (name, value) :: rest => (name, value.fold f) :: foldMembers f rest

end

theorem foldElements_eq_map {α : Type} (f : Algebra α) (elements : List Value) :
    foldElements f elements = elements.map (Value.fold f) := by
  induction elements with
  | nil => rfl
  | cons value rest ih => rw [foldElements, List.map_cons, ih]

theorem foldMembers_eq_map {α : Type} (f : Algebra α) (members : List (String × Value)) :
    foldMembers f members = members.map (fun (name, value) => (name, value.fold f)) := by
  induction members with
  | nil => rfl
  | cons member rest ih => rw [foldMembers, List.map_cons, ih]

end EntityMapping.Json
