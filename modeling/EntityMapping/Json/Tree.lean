/-
Module: EntityMapping.Json.Tree
Purpose: The tree that a text spells, as far as it goes. A text that breaks off still has a tree
  up to that place, so a reader can meet the faults in the order of the text and decide by itself
  which parts it wants and which it passes over.
Main exports: Tree, Document, Document.ofText, Tree.read, Tree.skip, Tree.ofValue
-/
import EntityMapping.Json.Token

namespace EntityMapping.Json

/-- The key of a member: its text, or why it cannot be read. -/
abbrev Key := Except Fault String

/-- A JSON tree that may be broken off. `unreadable` is a complete token without a value;
`broken` stands where a value should. A container that the text does not close names the place
where it breaks off, unless that place is inside its last element. -/
inductive Tree where
  | scalar (s : Scalar)
  | unreadable (fault : Fault)
  | broken (stop : Stop)
  | array (elements : List Tree) (stop : Option Stop)
  | object (members : List (Key × Tree)) (stop : Option Stop)

instance : Inhabited Tree := ⟨.scalar .null⟩

/-- The tree of one text, and whether anything but white space follows it. -/
structure Document where
  root : Tree
  followed : Bool

/-! ### From tokens to a tree -/

/-- An open container around the value that is being read, with its parts so far, last first. -/
inductive Hole where
  | element (before : List Tree)
  | member (before : List (Key × Tree)) (key : Key)

/-- The container once its last part is filled in, if nothing follows it. -/
def Hole.fill (value : Tree) : Hole → Tree
  | .element before => .array (value :: before).reverse none
  | .member before key => .object ((key, value) :: before).reverse none

/-- What is due next. Apart from `value`, a place is inside a container of its own, whose parts
so far it holds, last first. -/
inductive Place where
  | value
  | firstElement
  | afterElement (elements : List Tree)
  | firstKey
  | nextKey (before : List (Key × Tree))
  | colon (before : List (Key × Tree)) (key : Key)
  | afterMember (members : List (Key × Tree))

namespace Place

/-- What stands here if the text breaks off. -/
def breakOff (stop : Stop) : Place → Tree
  | .value => .broken stop
  | .firstElement => .array [] (some stop)
  | .afterElement elements => .array elements.reverse (some stop)
  | .firstKey => .object [] (some stop)
  | .nextKey before => .object before.reverse (some stop)
  | .colon before key => (Hole.member before key).fill (.broken stop)
  | .afterMember members => .object members.reverse (some stop)

/-- The fault of a text that ends here. -/
def atEnd : Place → Stop
  | .value => .both .endInValue
  | .firstElement => .both .endInList
  | .afterElement _ => .both .endInList
  | .firstKey => .both .endInObject
  | .nextKey _ => { read := .endInValue, skipped := .endInObject }
  | .colon _ _ => .both .endInObject
  | .afterMember _ => .both .endInObject

end Place

/-- How far the tokens have come. `holes` are the open containers around the place, innermost
first. -/
inductive Progress where
  | reading (place : Place) (holes : List Hole)
  | finished (root : Tree)
  | followed (root : Tree)
  | broken (root : Tree)

namespace Progress

/-- Nothing can be read after `part`, which stands inside the given holes. -/
def abandon (part : Tree) (holes : List Hole) : Progress :=
  .broken (holes.foldl (fun part hole => hole.fill part) part)

/-- The text breaks off at a place. -/
def breakOff (stop : Stop) (place : Place) (holes : List Hole) : Progress :=
  abandon (place.breakOff stop) holes

/-- A value is complete and fills the innermost hole. -/
def complete (value : Tree) : List Hole → Progress
  | [] => .finished value
  | .element before :: holes => .reading (.afterElement (value :: before)) holes
  | .member before key :: holes => .reading (.afterMember ((key, value) :: before)) holes

/-- A token where a value is due. -/
def value (holes : List Hole) : Token → Progress
  | .openList => .reading .firstElement holes
  | .openObject => .reading .firstKey holes
  | .scalar (.whole s) => complete (.scalar s) holes
  | .scalar (.unreadable fault) => complete (.unreadable fault) holes
  | .scalar (.broken stop) => abandon (.broken stop) holes
  | .string (.whole text) => complete (.scalar (.string text)) holes
  | .string (.unreadable fault) => complete (.unreadable fault) holes
  | .string (.broken stop) => abandon (.broken stop) holes
  | .closeList =>
      match holes with
      | .element _ :: _ =>
          abandon (.broken { read := .trailingComma, skipped := .valueExpected }) holes
      | _ => abandon (.broken (.both .valueExpected)) holes
  | _ => abandon (.broken (.both .valueExpected)) holes

/-- A token where a key is due. -/
def key (place : Place) (before : List (Key × Tree)) (holes : List Hole) : Token → Progress
  | .string (.whole text) => .reading (.colon before (.ok text)) holes
  | .string (.unreadable fault) => .reading (.colon before (.error fault)) holes
  | .string (.broken stop) => breakOff stop place holes
  | _ => breakOff (.both .keyNotString) place holes

/-- Goes on by one token. -/
def step : Progress → Token → Progress
  | .reading place holes, token =>
      match place, token with
      | .value, token => value holes token
      | .firstElement, .closeList => complete (.array [] none) holes
      | .firstElement, token => value (.element [] :: holes) token
      | .afterElement elements, .comma => .reading .value (.element elements :: holes)
      | .afterElement elements, .closeList => complete (.array elements.reverse none) holes
      | .afterElement _, _ => breakOff (.both .listCommaExpected) place holes
      | .firstKey, .closeObject => complete (.object [] none) holes
      | .firstKey, token => key place [] holes token
      | .nextKey _, .closeObject =>
          breakOff { read := .trailingComma, skipped := .keyNotString } place holes
      | .nextKey before, token => key place before holes token
      | .colon before name, .colon => .reading .value (.member before name :: holes)
      | .colon _ _, _ => breakOff (.both .colonExpected) place holes
      | .afterMember members, .comma => .reading (.nextKey members) holes
      | .afterMember members, .closeObject => complete (.object members.reverse none) holes
      | .afterMember _, _ => breakOff (.both .objectCommaExpected) place holes
  | .finished root, _ => .followed root
  | .followed root, _ => .followed root
  | .broken root, _ => .broken root

/-- The text ends here. -/
def close : Progress → Document
  | .reading place holes =>
      { root := holes.foldl (fun part hole => hole.fill part) (place.breakOff place.atEnd)
        followed := false }
  | .finished root => { root := root, followed := false }
  | .followed root => { root := root, followed := true }
  | .broken root => { root := root, followed := false }

end Progress

/-- The document that a text spells. -/
def Document.ofText (text : String) : Document :=
  ((Token.ofText text).foldl Progress.step (.reading .value [])).close

/-! ### Reading a tree into memory, and passing over it -/

/-- The containers that may stand inside each other. -/
def nestingLimit : Nat := 127

/-- The fault of a container that is not closed. -/
def requireClosed : Option Stop → Except Fault Unit
  | none => .ok ()
  | some stop => .error stop.read

mutual

/-- The value of a tree with at most `room` containers inside each other. The first fault in the
order of the text wins. -/
def Tree.read (room : Nat) : Tree → Except Fault Value
  | .scalar s => .ok (.scalar s)
  | .unreadable fault => .error fault
  | .broken stop => .error stop.read
  | .array elements stop =>
      match room with
      | 0 => .error .nestedTooDeep
      | room + 1 => do
          let values ← readElements room elements
          requireClosed stop
          return .array values
  | .object members stop =>
      match room with
      | 0 => .error .nestedTooDeep
      | room + 1 => do
          let values ← readMembers room members
          requireClosed stop
          return .object values

/-- The values of the elements of a list. -/
def readElements (room : Nat) : List Tree → Except Fault (List Value)
  | [] => .ok []
  | element :: rest => do
      let value ← element.read room
      let values ← readElements room rest
      return value :: values

/-- The keys and values of the members of an object. -/
def readMembers (room : Nat) : List (Key × Tree) → Except Fault (List (String × Value))
  | [] => .ok []
  | (key, member) :: rest => do
      let name ← key
      let value ← member.read room
      let values ← readMembers room rest
      return (name, value) :: values

end

/-- Passes over the end of a container. -/
def skipStop : Option Stop → Except Fault Unit
  | none => .ok ()
  | some stop => .error stop.skipped

mutual

/-- Passes over a tree: only its form counts, not the depth, the size of numbers or the pairing
of surrogates. -/
def Tree.skip : Tree → Except Fault Unit
  | .scalar _ => .ok ()
  | .unreadable _ => .ok ()
  | .broken stop => .error stop.skipped
  | .array elements stop => do
      skipElements elements
      skipStop stop
  | .object members stop => do
      skipMembers members
      skipStop stop

/-- Passes over the elements of a list. -/
def skipElements : List Tree → Except Fault Unit
  | [] => .ok ()
  | element :: rest => do
      element.skip
      skipElements rest

/-- Passes over the members of an object. -/
def skipMembers : List (Key × Tree) → Except Fault Unit
  | [] => .ok ()
  | (_, member) :: rest => do
      member.skip
      skipMembers rest

end

/-! ### The tree of a value -/

mutual

/-- The tree of a value that is written out in full. -/
def Tree.ofValue : Value → Tree
  | .scalar s => .scalar s
  | .array elements => .array (treesOfValues elements) none
  | .object members => .object (treesOfMembers members) none

/-- The trees of some values. -/
def treesOfValues : List Value → List Tree
  | [] => []
  | value :: rest => .ofValue value :: treesOfValues rest

/-- The keys and trees of some members. -/
def treesOfMembers : List (String × Value) → List (Key × Tree)
  | [] => []
  | (name, value) :: rest => (.ok name, .ofValue value) :: treesOfMembers rest

end

end EntityMapping.Json
