/-
Module: EntityMapping.Proofs.RecordEncoding
Purpose: Encodings as JSON values that lose nothing. Two values are alike if they are the same JSON,
  where the order of the members of an object does not count. A record is written part by part, each
  part under a key of its own and some left out when there is nothing to show; it can be told from
  every other record if each part can.
Main exports: Value.Alike, Value.alike_refl, Faithful, Faithful.list, RecordPart,
  RecordPart.members, RecordPart.content_eq_of_alike, faithful_of_parts
-/
import EntityMapping.Json.Value
import Mathlib.Data.List.Forall2
import Mathlib.Data.List.Nodup

namespace EntityMapping.Json

/-! ### Values that are the same JSON -/

/-- Two values are the same JSON: equal scalars, lists that agree element by element, or objects
that agree on what stands under each key. -/
inductive Value.Alike : Value → Value → Prop where
  | scalar (s : Scalar) : Alike (.scalar s) (.scalar s)
  | array {first second : List Value} (elements : List.Forall₂ Alike first second) :
      Alike (.array first) (.array second)
  | object {first second : List (String × Value)}
      (members : ∀ key, Option.Rel Alike (first.lookup key) (second.lookup key)) :
      Alike (.object first) (.object second)

mutual

/-- Every value is alike to itself. -/
theorem Value.alike_refl : ∀ value : Value, value.Alike value
  | .scalar s => .scalar s
  | .array elements => .array (elements_alike_refl elements)
  | .object members => .object (members_alike_refl members)

/-- The elements of a list are alike to themselves. -/
theorem elements_alike_refl : ∀ elements : List Value, List.Forall₂ Value.Alike elements elements
  | [] => .nil
  | value :: rest => .cons value.alike_refl (elements_alike_refl rest)

/-- What stands under a key is alike to itself. -/
theorem members_alike_refl :
    ∀ (members : List (String × Value)) (key : String),
      Option.Rel Value.Alike (members.lookup key) (members.lookup key)
  | [], _ => .none
  | (name, value) :: rest, key => by
      rw [List.lookup_cons]
      cases key == name with
      | true => exact .some value.alike_refl
      | false => exact members_alike_refl rest key

end

theorem scalar_eq_of_alike {first second : Scalar}
    (alike : (Value.scalar first).Alike (.scalar second)) : first = second := by
  cases alike with
  | scalar s => rfl

theorem elements_of_alike {first second : List Value}
    (alike : (Value.array first).Alike (.array second)) :
    List.Forall₂ Value.Alike first second := by
  cases alike with
  | array elements => exact elements

theorem member_of_alike {first second : List (String × Value)}
    (alike : (Value.object first).Alike (.object second)) (key : String) :
    Option.Rel Value.Alike (first.lookup key) (second.lookup key) := by
  cases alike with
  | object members => exact members key

/-! ### Encodings that lose nothing -/

/-- Whatever is encoded as the same JSON is the same. -/
def Faithful {α : Type} (encode : α → Value) : Prop :=
  ∀ first second, (encode first).Alike (encode second) → first = second

theorem faithful_string : Faithful Value.string := by
  intro first second alike
  exact Scalar.string.inj (scalar_eq_of_alike alike)

theorem faithful_boolean : Faithful Value.boolean := by
  intro first second alike
  exact Scalar.boolean.inj (scalar_eq_of_alike alike)

theorem faithful_natural : Faithful Value.natural := by
  intro first second alike
  have same := Number.integer.inj (Scalar.number.inj (scalar_eq_of_alike alike))
  exact Int.ofNat.inj same

section Faithful

variable {α β : Type} {encode : α → Value} (faithful : Faithful encode)

include faithful

/-- A list is encoded element by element. -/
theorem Faithful.list : Faithful fun items : List α => .array (items.map encode) := by
  intro first second alike
  have elements := elements_of_alike alike
  rw [List.forall₂_map_left_iff, List.forall₂_map_right_iff] at elements
  have same := elements.imp fun a b => faithful a b
  rwa [List.forall₂_eq_eq_eq] at same

/-- A name of each thing tells things apart if no two have the same name. -/
theorem Faithful.comp {name : β → α} (distinct : Function.Injective name) :
    Faithful fun b => encode (name b) := by
  intro first second alike
  exact distinct (faithful _ _ alike)

theorem Faithful.option {first second : Option α}
    (alike : Option.Rel Value.Alike (first.map encode) (second.map encode)) : first = second := by
  cases first with
  | none => cases second with
    | none => rfl
    | some b => cases alike
  | some a => cases second with
    | none => cases alike
    | some b => cases alike with
      | some values => rw [faithful a b values]

end Faithful

/-! ### Records -/

/-- A part of a record: its key, its content, and how the content is shown if it is not left out.
The content can be told from what is shown. -/
structure RecordPart (α : Type) where
  key : String
  {Content : Type}
  content : α → Content
  shown : Content → Option Value
  faithful : ∀ first second, Option.Rel Value.Alike (shown first) (shown second) → first = second

namespace RecordPart

variable {α β : Type}

/-- A part that is always shown. -/
def always (key : String) (content : α → β) (encode : β → Value) (faithful : Faithful encode) :
    RecordPart α where
  key := key
  content := content
  shown b := some (encode b)
  faithful first second alike := by
    cases alike with
    | some values => exact faithful first second values

/-- A list that is always shown. -/
def list (key : String) (content : α → List β) (encode : β → Value) (faithful : Faithful encode) :
    RecordPart α :=
  .always key content (fun items => .array (items.map encode)) faithful.list

/-- A part that is left out when it is absent. -/
def optional (key : String) (content : α → Option β) (encode : β → Value)
    (faithful : Faithful encode) : RecordPart α where
  key := key
  content := content
  shown b := b.map encode
  faithful _ _ alike := faithful.option alike

/-- A list that is left out when it is empty. -/
def nonempty (key : String) (content : α → List β) (encode : β → Value)
    (faithful : Faithful encode) : RecordPart α where
  key := key
  content := content
  shown items := if items.isEmpty then none else some (.array (items.map encode))
  faithful first second alike := by
    cases first with
    | nil => cases second with
      | nil => rfl
      | cons b rest => cases alike
    | cons a rest => cases second with
      | nil => cases alike
      | cons b others => cases alike with
        | some values => exact faithful.list _ _ values

/-- A mark that is left out when it is not set. -/
def mark (key : String) (content : α → Bool) : RecordPart α where
  key := key
  content := content
  shown set := if set then some (.boolean true) else none
  faithful first second alike := by
    cases first <;> cases second <;> first | rfl | cases alike

/-- The members of a record, part by part. -/
def members (parts : List (RecordPart α)) (a : α) : List (String × Value) :=
  parts.flatMap fun part => (part.shown (part.content a)).toList.map (part.key, ·)

variable {parts : List (RecordPart α)} {a b : α}

theorem lookup_members_of_not_mem {key : String} (absent : key ∉ parts.map RecordPart.key) :
    (members parts a).lookup key = none := by
  unfold members
  induction parts with
  | nil => rfl
  | cons part rest ih =>
      rw [List.map_cons, List.mem_cons, not_or] at absent
      rw [List.flatMap_cons, List.lookup_append, ih absent.2]
      cases part.shown (part.content a) with
      | none => rfl
      | some value => simp [List.lookup_cons, beq_eq_false_iff_ne.mpr absent.1]

/-- Under the key of a part stands what is shown of it. -/
theorem lookup_members (distinct : (parts.map RecordPart.key).Nodup) {part : RecordPart α}
    (listed : part ∈ parts) :
    (members parts a).lookup part.key = part.shown (part.content a) := by
  induction parts with
  | nil => simp at listed
  | cons head rest ih =>
      rw [List.map_cons, List.nodup_cons] at distinct
      have split : members (head :: rest) a =
          (head.shown (head.content a)).toList.map (head.key, ·) ++ members rest a := rfl
      rw [split, List.lookup_append]
      rcases List.mem_cons.mp listed with rfl | later
      · rw [lookup_members_of_not_mem distinct.1]
        cases part.shown (part.content a) <;> simp
      · have other : part.key ≠ head.key := by
          intro same
          exact distinct.1 (same ▸ List.mem_map_of_mem later)
        rw [ih distinct.2 later]
        cases head.shown (head.content a) with
        | none => rfl
        | some value => simp [List.lookup_cons, beq_eq_false_iff_ne.mpr other]

/-- Records that are written as the same JSON have the same parts. -/
theorem content_eq_of_alike (distinct : (parts.map RecordPart.key).Nodup)
    (alike : (Value.object (members parts a)).Alike (.object (members parts b))) :
    ∀ part ∈ parts, part.content a = part.content b := by
  intro part listed
  have shown := member_of_alike alike part.key
  rw [lookup_members distinct listed, lookup_members distinct listed] at shown
  exact part.faithful _ _ shown

end RecordPart

/-- A record that is written part by part, and is determined by its parts, is encoded faithfully. -/
theorem faithful_of_parts {α : Type} {encode : α → Value} (parts : List (RecordPart α))
    (distinct : (parts.map RecordPart.key).Nodup)
    (written : ∀ a, encode a = .object (RecordPart.members parts a))
    (determined : ∀ a b, (∀ part ∈ parts, part.content a = part.content b) → a = b) :
    Faithful encode := by
  intro first second alike
  rw [written, written] at alike
  exact determined first second (RecordPart.content_eq_of_alike distinct alike)

end EntityMapping.Json
