/-
Module: EntityMapping.Decoding.Tagged
Purpose: Nodes that say by a tag which of several records they are. An object holds the tag in its
  member `kind`, an array in its first element.
Main exports: Tags, Tags.ofMembers, Tags.ofElements, Tags.ofValue, Tags.ofTree
-/
import EntityMapping.Decoding.Record

namespace EntityMapping.Decoding

open Json (Key Scalar Stop Tree Value)

/-- The tags of a sort of node, in the order that positions count. `other` stands for every tag
that is not among the known ones, if such nodes are allowed. -/
structure Tags (τ : Type) where
  title : String
  known : List (String × τ)
  other : Option τ

/-- The member that holds the tag. -/
def tagKey : String := "kind"

namespace Tags

variable {β τ : Type}

/-- The tag of a name. -/
def ofName (tags : Tags τ) (name : String) : Except DecodeError τ :=
  match tags.known.lookup name, tags.other with
  | some tag, _ => .ok tag
  | none, some tag => .ok tag
  | none, none => .error (.unknownVariant name (tags.known.map Prod.fst))

/-- The tag of a position. -/
def ofPosition (tags : Tags τ) (position : Nat) : Except DecodeError τ :=
  match tags.known[position]?, tags.other with
  | some (_, tag), _ => .ok tag
  | none, some tag => .ok tag
  | none, none => .error (.noSuchVariant position tags.known.length)

/-- The tag of a value in memory: its name or its position. -/
def ofTagValue (tags : Tags τ) : Value → Except DecodeError τ
  | .scalar (.string name) => tags.ofName name
  | .scalar (.number (.integer (.ofNat position))) => tags.ofPosition position
  | value => .error (.wrongType value.found "variant identifier")

/-- What messages call the sort of node. -/
def expected (tags : Tags τ) : String :=
  "internally tagged enum " ++ tags.title

/-- The tag of an object, and its other members. `value` gives the value of a part. -/
def ofMembers (tags : Tags τ) (value : β → Value) (parts : List (String × β)) :
    Except DecodeError (τ × Body β) :=
  match parts.filter (·.1 == tagKey) with
  | [] => .error (.missingField tagKey)
  | (_, part) :: more => do
      let tag ← tags.ofTagValue (value part)
      if more.isEmpty then .ok (tag, .members (parts.filter (·.1 != tagKey)))
      else .error (.duplicateField tagKey)

/-- The tag of an array, and its other elements. -/
def ofElements (tags : Tags τ) (value : β → Value) : List β → Except DecodeError (τ × Body β)
  | [] => .error (.missingField tagKey)
  | part :: rest => do
      let tag ← tags.ofTagValue (value part)
      return (tag, .elements rest)

/-- The tag of a value, and its other parts. -/
def ofValue (tags : Tags τ) : Value → Except DecodeError (τ × Body Value)
  | .object members => tags.ofMembers id members
  | .array elements => tags.ofElements id elements
  | .scalar s => .error (.wrongType (.scalar s) tags.expected)

/-! ### Straight from the text -/

/-- The tag of a tree: only its name counts. -/
def ofTagTree (tags : Tags τ) : Tree → Except DecodeError τ
  | .scalar (.string name) => tags.ofName name
  | tree => .error (tree.wrongType "variant identifier")

/-- Goes through the members of an object of a text. The tag is judged where it stands, the other
members are read into memory; `before` holds them, last first. -/
def readMembers (tags : Tags τ) (room : Nat) (tag : Option τ) (before : List (String × Value)) :
    List (Key × Tree) → Option Stop → Except DecodeError (τ × Body Value)
  | [], stop => do
      orMalformed (Json.requireClosed stop)
      match tag with
      | some tag => .ok (tag, .members before.reverse)
      | none => .error (.missingField tagKey)
  | (key, part) :: rest, stop => do
      let name ← orMalformed key
      if name = tagKey then
        if tag.isSome then .error (.duplicateField tagKey)
        else
          let tag ← tags.ofTagTree part
          tags.readMembers room (some tag) before rest stop
      else
        let value ← orMalformed (part.read room)
        tags.readMembers room tag ((name, value) :: before) rest stop

/-- The tag of a tree and its other parts, read into memory. -/
def ofTree (tags : Tags τ) (room : Nat) (tree : Tree) : Except DecodeError (τ × Body Value) :=
  match room, tree with
  | 0, .object _ _ => .error (.malformed .nestedTooDeep)
  | 0, .array _ _ => .error (.malformed .nestedTooDeep)
  | room + 1, .object members stop => tags.readMembers room none [] members stop
  | room + 1, .array elements stop =>
      match elements with
      | [] => do
          orMalformed (Json.requireClosed stop)
          .error (.missingField tagKey)
      | part :: rest => do
          let tag ← tags.ofTagTree part
          let values ← orMalformed (Json.readElements room rest)
          orMalformed (Json.requireClosed stop)
          return (tag, .elements values)
  | _, tree => .error (tree.wrongType tags.expected)

end Tags

/-- Passes over the parts of a node that carries nothing: further members are ignored, further
elements are not allowed. -/
def Body.ignore {β : Type} : Body β → Except DecodeError Unit
  | .members _ => .ok ()
  | .elements [] => .ok ()
  | .elements parts => .error (.tooLong parts.length 0)

end EntityMapping.Decoding
