/-
Module: EntityMapping.Proofs.Arrangement
Purpose: Objects whose members stand in any order, with further members between them. A record whose
  fields are read independently of each other is read the same from every arrangement of its
  members, and so is the tag of a node.
Main exports: Decoding.Arranged, Record.readMembers_cons_ok_iff, Record.Independent,
  Record.readMembers_perm, Record.ofMembers_of_arranged, Record.ofMembers_of_single,
  Record.name_mem_of_readMembers, Record.comap, Record.ofMembers_map,
  Tags.ofMembers_map_of_arranged
-/
import EntityMapping.Decoding.Tagged
import Mathlib.Data.List.Perm.Basic
import Mathlib.Data.List.Pairwise

namespace EntityMapping.Decoding

open Json (Value)

/-! ### Arrangements -/

/-- The parts are the given ones and further ones that have none of the names, in any order. -/
def Arranged {β : Type} (names : List String) (given parts : List (String × β)) : Prop :=
  ∃ further, parts.Perm (given ++ further) ∧ ∀ part ∈ further, part.1 ∉ names

namespace Arranged

variable {β : Type} {names : List String} {given parts : List (String × β)}

/-- The given parts are among the parts. -/
theorem mem (arranged : Arranged names given parts) {part : String × β} (hpart : part ∈ given) :
    part ∈ parts := by
  obtain ⟨further, permuted, _⟩ := arranged
  exact permuted.mem_iff.mpr (List.mem_append_left further hpart)

section Key

variable {key : String} {part : β}

theorem filter_key_eq_nil_iff :
    parts.filter (·.1 == key) = [] ↔ key ∉ parts.map Prod.fst := by
  simp only [List.filter_eq_nil_iff, List.mem_map, beq_iff_eq, not_exists, not_and]

theorem filter_other_of_not_mem (absent : key ∉ parts.map Prod.fst) :
    parts.filter (·.1 != key) = parts := by
  simpa only [List.filter_eq_self, List.mem_map, bne_iff_ne, not_exists, not_and] using absent

theorem not_mem_of_unnamed (unnamed : ∀ part ∈ parts, part.1 ∉ key :: names) :
    key ∉ parts.map Prod.fst := by
  intro listed
  obtain ⟨part, hpart, same⟩ := List.mem_map.mp listed
  exact unnamed part hpart (List.mem_cons.mpr (Or.inl same))

variable (arranged : Arranged (key :: names) ((key, part) :: given) parts)
  (single : key ∉ given.map Prod.fst)

include arranged single

/-- One of the parts has the key of a given part. -/
theorem filter_key : parts.filter (·.1 == key) = [(key, part)] := by
  obtain ⟨further, permuted, unnamed⟩ := arranged
  have filtered := permuted.filter (·.1 == key)
  rw [List.cons_append, List.filter_cons_of_pos (by simp), List.filter_append,
    filter_key_eq_nil_iff.mpr single,
    filter_key_eq_nil_iff.mpr (not_mem_of_unnamed unnamed)] at filtered
  exact List.perm_singleton.mp filtered

/-- The other parts are an arrangement of the other given parts. -/
theorem filter_other : Arranged names given (parts.filter (·.1 != key)) := by
  obtain ⟨further, permuted, unnamed⟩ := arranged
  have filtered := permuted.filter (·.1 != key)
  rw [List.cons_append, List.filter_cons_of_neg (by simp), List.filter_append,
    filter_other_of_not_mem single,
    filter_other_of_not_mem (not_mem_of_unnamed unnamed)] at filtered
  exact ⟨further, filtered, fun other hother named =>
    unnamed other hother (List.mem_cons_of_mem key named)⟩

end Key

end Arranged

/-! ### Records -/

namespace Record

variable {β α : Type} {r : Record β α} {seen : List String} {a b : α}

theorem field?_eq_none_iff {name : String} :
    r.field? name = none ↔ name ∉ r.fields.map (·.name) := by
  unfold field?
  rw [List.find?_eq_none, List.mem_map]
  simp

theorem mem_of_field? {name : String} {f : Field β α} (found : r.field? name = some f) :
    f ∈ r.fields ∧ f.name = name :=
  ⟨List.mem_of_find?_eq_some found, by simpa using List.find?_some found⟩

/-- A member of an object is passed over, or it is a field that was not read yet and changes the
record. -/
theorem readMembers_cons_ok_iff {name : String} {part : β} {rest : List (String × β)} :
    r.readMembers seen a ((name, part) :: rest) = .ok b ↔
      (r.field? name = none ∧ r.readMembers seen a rest = .ok b) ∨
      ∃ f put, r.field? name = some f ∧ name ∉ seen ∧ f.read part = .ok put ∧
        r.readMembers (name :: seen) (put a) rest = .ok b := by
  rw [readMembers]
  cases found : r.field? name with
  | none => simp
  | some f =>
      by_cases again : name ∈ seen
      · simp [again]
      · cases read : f.read part with
        | error cause => simp [again, read, bind, Except.bind]
        | ok put => simp [again, read, bind, Except.bind]

/-- Of the fields that were read before, only their names count. -/
theorem readMembers_congr {seen' : List String}
    (same : ∀ name, seen.contains name = seen'.contains name) (parts : List (String × β)) :
    r.readMembers seen a parts = r.readMembers seen' a parts := by
  induction parts generalizing seen seen' a with
  | nil => simp only [readMembers, finish, same]
  | cons part rest ih =>
      obtain ⟨name, value⟩ := part
      have sameAfter (other : String) :
          (name :: seen).contains other = (name :: seen').contains other := by
        rw [List.contains_cons, List.contains_cons, same]
      simp only [readMembers, same, ih same, ih sameAfter]

/-- Whichever of two fields is read first, the record is the same. -/
def Independent (r : Record β α) : Prop :=
  r.fields.Pairwise fun f g =>
    ∀ part part' put put', f.read part = .ok put → g.read part' = .ok put' →
      ∀ a, put (put' a) = put' (put a)

theorem Independent.comm (independent : r.Independent) {f g : Field β α} (hf : f ∈ r.fields)
    (hg : g ∈ r.fields) (different : f.name ≠ g.name) {part part' : β} {put put' : α → α}
    (read : f.read part = .ok put) (read' : g.read part' = .ok put') (a : α) :
    put (put' a) = put' (put a) := by
  have symmetric : Std.Symm fun f g : Field β α =>
      ∀ part part' put put', f.read part = .ok put → g.read part' = .ok put' →
        ∀ a, put (put' a) = put' (put a) :=
    ⟨fun _ _ commute part part' put put' read read' a =>
      (commute part' part put' put read' read a).symm⟩
  have unequal : f ≠ g := fun same => different (congrArg Field.name same)
  exact List.Pairwise.forall independent hf hg unequal part part' put put' read read' a

/-- An object that gives a record gives it in any order of its members. -/
theorem readMembers_perm (independent : r.Independent) {parts parts' : List (String × β)}
    (permuted : parts.Perm parts') (read : r.readMembers seen a parts = .ok b) :
    r.readMembers seen a parts' = .ok b := by
  induction permuted generalizing seen a with
  | nil => exact read
  | cons part _ ih =>
      rcases readMembers_cons_ok_iff.mp read with
        ⟨unknown, rest⟩ | ⟨f, put, found, fresh, got, rest⟩
      · exact readMembers_cons_ok_iff.mpr (Or.inl ⟨unknown, ih rest⟩)
      · exact readMembers_cons_ok_iff.mpr (Or.inr ⟨f, put, found, fresh, got, ih rest⟩)
  | swap first second rest =>
      obtain ⟨name, part⟩ := first
      obtain ⟨name', part'⟩ := second
      simp only [readMembers_cons_ok_iff] at read ⊢
      rcases read with ⟨unknown', ⟨unknown, read⟩ | ⟨f, put, found, fresh, got, read⟩⟩ |
        ⟨g, put', found', fresh', got', ⟨unknown, read⟩ | ⟨f, put, found, fresh, got, read⟩⟩
      · exact Or.inl ⟨unknown, Or.inl ⟨unknown', read⟩⟩
      · exact Or.inr ⟨f, put, found, fresh, got, Or.inl ⟨unknown', read⟩⟩
      · exact Or.inl ⟨unknown, Or.inr ⟨g, put', found', fresh', got', read⟩⟩
      · -- Both are fields, and each is read while the other is not.
        obtain ⟨hf, rfl⟩ := mem_of_field? found
        obtain ⟨hg, rfl⟩ := mem_of_field? found'
        have different : f.name ≠ g.name := fun same => fresh (by simp [same])
        have freshFirst : f.name ∉ seen := fun again => fresh (List.mem_cons_of_mem _ again)
        have freshSecond : g.name ∉ f.name :: seen := by
          simp [different.symm, fresh']
        have sameSeen (other : String) :
            (f.name :: g.name :: seen).contains other =
              (g.name :: f.name :: seen).contains other := by
          simp [Bool.or_left_comm]
        rw [independent.comm hf hg different got got', readMembers_congr sameSeen] at read
        exact Or.inr ⟨f, put, found, freshFirst, got,
          Or.inr ⟨g, put', found', freshSecond, got', read⟩⟩
  | trans _ _ ih ih' => exact ih' (ih read)

/-- Members that are no fields make no difference. -/
theorem readMembers_append_of_unknown {further : List (String × β)}
    (unknown : ∀ part ∈ further, r.field? part.1 = none) (parts : List (String × β)) :
    r.readMembers seen a (parts ++ further) = r.readMembers seen a parts := by
  induction parts generalizing seen a with
  | nil =>
      induction further with
      | nil => rfl
      | cons part rest ih =>
          obtain ⟨name, value⟩ := part
          obtain ⟨first, others⟩ := List.forall_mem_cons.mp unknown
          simp only [List.nil_append, readMembers, first]
          exact ih others
  | cons part rest ih =>
      obtain ⟨name, value⟩ := part
      simp only [List.cons_append, readMembers, ih]

/-- A record that some members give is given by every arrangement of them. -/
theorem ofMembers_of_arranged (independent : r.Independent) {given parts : List (String × β)}
    (arranged : Arranged (r.fields.map (·.name)) given parts) (read : r.ofMembers given = .ok b) :
    r.ofMembers parts = .ok b := by
  obtain ⟨further, permuted, unnamed⟩ := arranged
  have unknown : ∀ part ∈ further, r.field? part.1 = none :=
    fun part hpart => field?_eq_none_iff.mpr (unnamed part hpart)
  apply readMembers_perm independent permuted.symm
  rw [readMembers_append_of_unknown unknown]
  exact read

/-- A record with one field is given by every object that has this field once. -/
theorem ofMembers_of_single {γ : Type} {name : String} {read : β → Except DecodeError γ}
    {make : γ → α}
    (only : r.fields = [{ name, required := true, read := fun part => do
      let c ← read part
      return fun _ => make c }])
    {parts : List (String × β)} {part : β} (arranged : Arranged [name] [(name, part)] parts)
    {c : γ} (given : read part = .ok c) : r.ofMembers parts = .ok (make c) := by
  have independent : r.Independent := by
    rw [Independent, only]
    exact List.pairwise_singleton _ _
  have names : r.fields.map (·.name) = [name] := by rw [only]; rfl
  have single : r.ofMembers [(name, part)] = .ok (make c) := by
    simp [ofMembers, readMembers, field?, finish, only, given, bind, Except.bind, pure,
      Except.pure]
  exact ofMembers_of_arranged independent (names ▸ arranged) single

/-- An object only gives a record if it has all the fields that are required. -/
theorem name_mem_of_readMembers {parts : List (String × β)}
    (read : r.readMembers seen a parts = .ok b) {f : Field β α} (hf : f ∈ r.fields)
    (required : f.required = true) : f.name ∈ seen ∨ f.name ∈ parts.map Prod.fst := by
  induction parts generalizing seen a with
  | nil =>
      rw [readMembers, finish] at read
      split at read
      · simp at read
      · rename_i complete
        have present := List.find?_eq_none.mp complete f hf
        exact Or.inl (by simpa [required] using present)
  | cons part rest ih =>
      obtain ⟨name, value⟩ := part
      rw [List.map_cons, List.mem_cons]
      rcases readMembers_cons_ok_iff.mp read with ⟨_, later⟩ | ⟨g, put, _, _, _, later⟩
      · rcases ih later with before | after
        · exact Or.inl before
        · exact Or.inr (Or.inr after)
      · rcases ih later with before | after
        · rcases List.mem_cons.mp before with here | before
          · exact Or.inr (Or.inl here)
          · exact Or.inl before
        · exact Or.inr (Or.inr after)

/-! Parts that are made of other parts. -/

variable {γ : Type} (f : γ → β)

/-- The record whose fields are read from what `f` makes of their parts. -/
def comap (r : Record β α) : Record γ α where
  title := r.title
  blank := r.blank
  fields := r.fields.map fun field => { field with read := field.read ∘ f }

theorem field?_comap (r : Record β α) (name : String) :
    (r.comap f).field? name =
      (r.field? name).map fun field => { field with read := field.read ∘ f } := by
  unfold field? comap
  rw [List.find?_map]
  rfl

theorem finish_comap (r : Record β α) (seen : List String) (a : α) :
    (r.comap f).finish seen a = r.finish seen a := by
  have missing :
      (r.comap f).fields.find? (fun field => field.required && !seen.contains field.name) =
        (r.fields.find? fun field => field.required && !seen.contains field.name).map
          fun field => { field with read := field.read ∘ f } := by
    rw [comap, List.find?_map]
    rfl
  rw [finish, finish, missing]
  cases r.fields.find? fun field => field.required && !seen.contains field.name <;> rfl

theorem readMembers_map (r : Record β α) (seen : List String) (a : α)
    (parts : List (String × γ)) :
    r.readMembers seen a (parts.map fun (name, part) => (name, f part)) =
      (r.comap f).readMembers seen a parts := by
  induction parts generalizing seen a with
  | nil => rw [List.map_nil, readMembers, readMembers, finish_comap]
  | cons part rest ih =>
      obtain ⟨name, part⟩ := part
      rw [List.map_cons, readMembers, readMembers, field?_comap]
      cases r.field? name with
      | none => exact ih seen a
      | some field => simp only [Option.map_some, Function.comp_apply, ih]

/-- What a record takes from such parts, it takes from the parts that they are made of. -/
theorem ofMembers_map (r : Record β α) (parts : List (String × γ)) :
    r.ofMembers (parts.map fun (name, part) => (name, f part)) = (r.comap f).ofMembers parts :=
  readMembers_map f r [] r.blank parts

end Record

/-! ### Tags -/

namespace Tags

variable {β γ τ : Type} {tags : Tags τ} {names : List String} {name : String} {tag : τ}

/-- A name that is not known stands for the tag of all others, if there is one. -/
theorem ofName_of_not_mem (tags : Tags τ) (other : tags.other = some tag)
    (unknown : name ∉ tags.known.map Prod.fst) : tags.ofName name = .ok tag := by
  have absent : tags.known.lookup name = none := by
    rw [List.lookup_eq_none_iff]
    intro entry hentry
    exact bne_iff_ne.mpr fun same => unknown (List.mem_map.mpr ⟨entry, hentry, same.symm⟩)
  rw [ofName, absent, other]

/-- The tag of a node is found wherever it stands, and what is left is an arrangement of the other
members. The parts may be made of other parts by `f`. -/
theorem ofMembers_map_of_arranged (value : β → Value) (f : γ → β)
    {given parts : List (String × γ)} {part : γ}
    (arranged : Arranged (tagKey :: names) ((tagKey, part) :: given) parts)
    (single : tagKey ∉ given.map Prod.fst) (held : value (f part) = .string name)
    (named : tags.ofName name = .ok tag) :
    ∃ others, tags.ofMembers value (parts.map fun (name, part) => (name, f part)) =
        .ok (tag, .members (others.map fun (name, part) => (name, f part))) ∧
      Arranged names given others := by
  refine ⟨parts.filter (·.1 != tagKey), ?_, arranged.filter_other single⟩
  have read : tags.ofTagValue (value (f part)) = .ok tag := by
    rw [held]
    exact named
  have keyed : (parts.map fun (name, part) => (name, f part)).filter (·.1 == tagKey) =
      [(tagKey, f part)] := by
    rw [List.filter_map]
    exact congrArg _ (arranged.filter_key single)
  rw [ofMembers, keyed, List.filter_map]
  simp [read, bind, Except.bind, Function.comp_def]

end Tags

end EntityMapping.Decoding
