/-
Module: EntityMapping.Proofs.TreeReading
Purpose: The tree of a value that is written out in full. It is read back into memory if the value
  is not nested too deep, and what a record, a tag or a list takes straight from the tree is what it
  takes from the value.
Main exports: Value.depth, Tree.read_ofValue, Tree.skip_ofValue, Record.ofTree_ofValue,
  Tags.ofTree_of_arranged, list_of_forall₂, listOfTree_of_forall₂
-/
import EntityMapping.Proofs.Arrangement

namespace EntityMapping

namespace Json

/-! ### The depth of a value -/

/-- Counts the containers that stand inside each other. -/
def depthAlgebra : Algebra Nat where
  scalar _ := 0
  array depths := depths.foldr max 0 + 1
  object depths := (depths.map Prod.snd).foldr max 0 + 1

/-- The number of containers that stand inside each other at the deepest place of a value. -/
def Value.depth (value : Value) : Nat :=
  value.fold depthAlgebra

theorem foldr_max_le_iff {depths : List Nat} {room : Nat} :
    depths.foldr max 0 ≤ room ↔ ∀ depth ∈ depths, depth ≤ room := by
  induction depths with
  | nil => simp
  | cons depth rest ih => rw [List.foldr_cons, Nat.max_le, ih, List.forall_mem_cons]

namespace Value

theorem depth_array_le_iff {elements : List Value} {room : Nat} :
    (array elements).depth ≤ room ↔
      ∃ inner, room = inner + 1 ∧ ∀ value ∈ elements, value.depth ≤ inner := by
  have depth_eq : (array elements).depth = (elements.map depth).foldr max 0 + 1 := by
    rw [depth, fold, foldElements_eq_map]
    rfl
  rw [depth_eq]
  cases room with
  | zero => simp
  | succ room => simp [foldr_max_le_iff]

theorem depth_object_le_iff {members : List (String × Value)} {room : Nat} :
    (object members).depth ≤ room ↔
      ∃ inner, room = inner + 1 ∧ ∀ member ∈ members, member.2.depth ≤ inner := by
  have depth_eq : (object members).depth = (members.map (·.2.depth)).foldr max 0 + 1 := by
    rw [depth, fold, foldMembers_eq_map]
    simp only [depthAlgebra, List.map_map]
    rfl
  rw [depth_eq]
  cases room with
  | zero => simp
  | succ room => simp only [Nat.add_le_add_iff_right, foldr_max_le_iff, List.forall_mem_map,
      Nat.add_right_cancel_iff, exists_eq_left']

end Value

/-! ### The tree of a value -/

theorem treesOfValues_eq_map (values : List Value) :
    treesOfValues values = values.map Tree.ofValue := by
  induction values with
  | nil => rfl
  | cons value rest ih => rw [treesOfValues, List.map_cons, ih]

mutual

/-- A value that is written out in full is read back if there is room for its depth. -/
theorem Tree.read_ofValue :
    ∀ (value : Value) {room : Nat}, value.depth ≤ room →
      (Tree.ofValue value).read room = .ok value
  | .scalar _, _, _ => by rw [Tree.ofValue, Tree.read]
  | .array elements, _, shallow => by
      obtain ⟨inner, rfl, inside⟩ := Value.depth_array_le_iff.mp shallow
      rw [Tree.ofValue, Tree.read, readElements_treesOfValues elements inside]
      rfl
  | .object members, _, shallow => by
      obtain ⟨inner, rfl, inside⟩ := Value.depth_object_le_iff.mp shallow
      rw [Tree.ofValue, Tree.read, readMembers_treesOfMembers members inside]
      rfl

theorem readElements_treesOfValues :
    ∀ (values : List Value) {room : Nat}, (∀ value ∈ values, value.depth ≤ room) →
      readElements room (treesOfValues values) = .ok values
  | [], _, _ => rfl
  | value :: rest, _, shallow => by
      obtain ⟨first, others⟩ := List.forall_mem_cons.mp shallow
      rw [treesOfValues, readElements, Tree.read_ofValue value first,
        readElements_treesOfValues rest others]
      rfl

theorem readMembers_treesOfMembers :
    ∀ (members : List (String × Value)) {room : Nat},
      (∀ member ∈ members, member.2.depth ≤ room) →
        readMembers room (treesOfMembers members) = .ok members
  | [], _, _ => rfl
  | (name, value) :: rest, _, shallow => by
      obtain ⟨first, others⟩ := List.forall_mem_cons.mp shallow
      rw [treesOfMembers, readMembers, Tree.read_ofValue value first,
        readMembers_treesOfMembers rest others]
      rfl

end

mutual

/-- A value that is written out in full can be passed over, however deep it is. -/
theorem Tree.skip_ofValue : ∀ value : Value, (Tree.ofValue value).skip = .ok ()
  | .scalar _ => by rw [Tree.ofValue, Tree.skip]
  | .array elements => by
      rw [Tree.ofValue, Tree.skip, skipElements_treesOfValues elements]
      rfl
  | .object members => by
      rw [Tree.ofValue, Tree.skip, skipMembers_treesOfMembers members]
      rfl

theorem skipElements_treesOfValues :
    ∀ values : List Value, skipElements (treesOfValues values) = .ok ()
  | [] => rfl
  | value :: rest => by
      rw [treesOfValues, skipElements, Tree.skip_ofValue value]
      exact skipElements_treesOfValues rest

theorem skipMembers_treesOfMembers :
    ∀ members : List (String × Value), skipMembers (treesOfMembers members) = .ok ()
  | [] => rfl
  | (_, value) :: rest => by
      rw [treesOfMembers, skipMembers, Tree.skip_ofValue value]
      exact skipMembers_treesOfMembers rest

end

end Json

namespace Decoding

open Json (Tree Value treesOfMembers treesOfValues treesOfValues_eq_map)

/-! ### Records and tags -/

namespace Record

variable {α : Type}

theorem readTreeMembers_treesOfMembers (r : Record Tree α) (seen : List String) (a : α)
    (parts : List (String × Value)) :
    r.readTreeMembers seen a (treesOfMembers parts) none =
      (r.comap Tree.ofValue).readMembers seen a parts := by
  induction parts generalizing seen a with
  | nil => rw [readMembers, finish_comap]; rfl
  | cons part rest ih =>
      obtain ⟨name, value⟩ := part
      rw [treesOfMembers, readMembers, field?_comap]
      cases found : r.field? name with
      | none => simp [readTreeMembers, found, Tree.skip_ofValue, orMalformed, ih, bind, Except.bind]
      | some field => simp [readTreeMembers, found, orMalformed, ih, bind, Except.bind]

/-- Straight from the tree of an object, a record is what the members of the object give. -/
theorem ofTree_ofValue (room : Nat) (r : Nat → Record Tree α) (parts : List (String × Value)) :
    ofTree (room + 1) r (.ofValue (.object parts)) =
      ((r room).comap Tree.ofValue).ofMembers parts :=
  readTreeMembers_treesOfMembers (r room) [] (r room).blank parts

end Record

namespace Tags

variable {τ : Type} {tags : Tags τ} {tag : τ} {room : Nat}

/-- Once the tag is read, the other members are read into memory. -/
theorem readMembers_of_tagged {parts : List (String × Value)}
    (shallow : ∀ part ∈ parts, part.2.depth ≤ room) (untagged : tagKey ∉ parts.map Prod.fst)
    (before : List (String × Value)) :
    tags.readMembers room (some tag) before (treesOfMembers parts) none =
      .ok (tag, .members (before.reverse ++ parts)) := by
  induction parts generalizing before with
  | nil => rw [List.append_nil]; rfl
  | cons part rest ih =>
      obtain ⟨name, value⟩ := part
      obtain ⟨first, others⟩ := List.forall_mem_cons.mp shallow
      rw [List.map_cons, List.mem_cons, not_or] at untagged
      obtain ⟨different, untagged⟩ := untagged
      have later := ih others untagged ((name, value) :: before)
      rw [List.reverse_cons, List.append_assoc] at later
      rw [treesOfMembers, readMembers, Json.Tree.read_ofValue value first]
      exact (if_neg fun same => different same.symm).trans later

/-- The tag is found wherever it stands, and the other members are read into memory. -/
theorem readMembers_of_filter_key {parts : List (String × Value)} {name : String}
    (shallow : ∀ part ∈ parts, part.2.depth ≤ room)
    (single : parts.filter (·.1 == tagKey) = [(tagKey, .string name)])
    (named : tags.ofName name = .ok tag) (before : List (String × Value)) :
    tags.readMembers room none before (treesOfMembers parts) none =
      .ok (tag, .members (before.reverse ++ parts.filter (·.1 != tagKey))) := by
  induction parts generalizing before with
  | nil => simp at single
  | cons part rest ih =>
      obtain ⟨key, value⟩ := part
      obtain ⟨first, others⟩ := List.forall_mem_cons.mp shallow
      by_cases here : key = tagKey
      · -- This is the tag, so no later member has its key.
        rw [List.filter_cons_of_pos (by simpa using here)] at single
        obtain ⟨same, alone⟩ := List.cons.inj single
        obtain ⟨rfl, rfl⟩ := Prod.mk.inj same
        have untagged : tagKey ∉ rest.map Prod.fst := Arranged.filter_key_eq_nil_iff.mp alone
        have read : tags.ofTagTree (.ofValue (.string name)) = .ok tag := by
          rw [← named, Value.string, Tree.ofValue, ofTagTree]
        have later : tags.readMembers room (some tag) before (treesOfMembers rest) none =
            .ok (tag, .members (before.reverse ++ rest)) :=
          readMembers_of_tagged others untagged before
        rw [List.filter_cons_of_neg (by simp), Arranged.filter_other_of_not_mem untagged]
        simp [treesOfMembers, readMembers, orMalformed, read, later, bind, Except.bind]
      · rw [List.filter_cons_of_neg (by simpa using here)] at single
        have later := ih others single ((key, value) :: before)
        rw [List.reverse_cons, List.append_assoc] at later
        rw [treesOfMembers, readMembers, Json.Tree.read_ofValue value first,
          List.filter_cons_of_pos (by simpa using here)]
        exact (if_neg here).trans later

/-- Straight from the tree, the tag of a node is found wherever it stands. -/
theorem ofTree_of_arranged (tags : Tags τ) {names : List String}
    {given parts : List (String × Value)} {name : String}
    (arranged : Arranged (tagKey :: names) ((tagKey, .string name) :: given) parts)
    (single : tagKey ∉ given.map Prod.fst) (named : tags.ofName name = .ok tag)
    (shallow : (Value.object parts).depth ≤ room) :
    ∃ others, tags.ofTree room (.ofValue (.object parts)) = .ok (tag, .members others) ∧
      Arranged names given others := by
  obtain ⟨inner, rfl, inside⟩ := Value.depth_object_le_iff.mp shallow
  refine ⟨parts.filter (·.1 != tagKey), ?_, arranged.filter_other single⟩
  exact readMembers_of_filter_key inside (arranged.filter_key single) named []

end Tags

/-! ### Lists -/

section Lists

variable {α β : Type}

theorem mapM_ok_of_forall₂ {read : β → Except DecodeError α} {items : List α} {parts : List β}
    (each : List.Forall₂ (fun item part => read part = .ok item) items parts) :
    parts.mapM read = .ok items := by
  induction each with
  | nil => rfl
  | cons first _ ih => rw [List.mapM_cons, first, ih]; rfl

theorem list_of_forall₂ {read : Value → Except DecodeError α} {items : List α}
    {values : List Value}
    (each : List.Forall₂ (fun item value => read value = .ok item) items values) :
    list read (.array values) = .ok items :=
  mapM_ok_of_forall₂ each

/-- Straight from the tree of an array, a list is what its elements give. -/
theorem listOfTree_of_forall₂ {read : Nat → Tree → Except DecodeError α} {items : List α}
    {values : List Value} {room : Nat}
    (each : List.Forall₂ (fun item value => read room (.ofValue value) = .ok item) items values) :
    listOfTree (room + 1) read (.ofValue (.array values)) = .ok items := by
  have elements : (treesOfValues values).mapM (read room) = .ok items := by
    rw [treesOfValues_eq_map, List.mapM_map]
    exact mapM_ok_of_forall₂ each
  rw [Tree.ofValue, listOfTree, elements]
  rfl

end Lists

end Decoding

end EntityMapping
