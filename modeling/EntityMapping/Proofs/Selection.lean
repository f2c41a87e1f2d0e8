/-
Module: EntityMapping.Proofs.Selection
Purpose: Lists that are selected from other lists, by a partial function or by a key.
Main exports: forall₂_filter_filterMap, filterMap_ite_eq_map_filter, map_const_filterMap,
  filter_key_filterMap, mapIdx_eq_filterMap_range, filter_key_eq_singleton, filter_key_perm,
  FirstGiven, LastGiven, findSome?_eq_some_iff_firstGiven, getLast?_filterMap_eq_some_iff,
  getLast?_filterMap_eq_none_iff, view_foldl_eq_getLast
-/
import Mathlib.Data.List.Forall2
import Mathlib.Data.List.Induction
import Mathlib.Data.List.Nodup

namespace EntityMapping

/-- What a partial function selects from a list relates, in order, to the elements it selects. -/
theorem forall₂_filter_filterMap {α β : Type} {R : α → β → Prop} {select : α → Option β}
    {items : List α} (related : ∀ a ∈ items, ∀ b, select a = some b → R a b) :
    List.Forall₂ R (items.filter fun a => (select a).isSome) (items.filterMap select) := by
  induction items with
  | nil => exact .nil
  | cons item rest ih =>
      have relatedRest := ih fun a ha => related a (List.mem_cons_of_mem item ha)
      cases selected : select item with
      | none => simpa [selected] using relatedRest
      | some b =>
          simpa [selected] using
            ⟨related item List.mem_cons_self b selected, relatedRest⟩

/-- A partial function that is defined where a test holds selects what passes the test. -/
theorem filterMap_ite_eq_map_filter {α β : Type} (test : α → Bool) (f : α → β) (items : List α) :
    (items.filterMap fun a => if test a then some (f a) else none) = (items.filter test).map f := by
  rw [← List.filterMap_eq_map, List.filterMap_filter]
  rfl

/-- A partial function that is defined where a test holds selects as many elements as pass it. -/
theorem map_const_filterMap {α β γ : Type} {select : α → Option β} {test : α → Bool}
    (selects : ∀ a, (select a).isSome = test a) (c : γ) (items : List α) :
    ((items.filterMap select).map fun _ => c) = (items.filter test).map fun _ => c := by
  induction items with
  | nil => rfl
  | cons item rest ih =>
      have selected := selects item
      cases given : select item with
      | none =>
          rw [given] at selected
          simp [given, ← selected, ih]
      | some b =>
          rw [given] at selected
          simp [given, ← selected, ih]

/-- What a partial function selects with a key comes from the elements that have that key. -/
theorem filter_key_filterMap {α β κ : Type} [DecidableEq κ] {select : α → Option β} {key : β → κ}
    {key? : α → Option κ} (keyed : ∀ a, (select a).map key = key? a) (k : κ) (items : List α) :
    (items.filterMap select).filter (fun b => key b == k) =
      (items.filter fun a => key? a == some k).filterMap select := by
  rw [List.filter_filterMap, List.filterMap_filter]
  apply List.filterMap_congr
  intro a _
  rw [← keyed a]
  cases selected : select a with
  | none => simp
  | some b => by_cases same : key b = k <;> simp [same]

/-- The elements of a list with their positions are found by going through its positions. -/
theorem mapIdx_eq_filterMap_range {α β : Type} (f : Nat → α → β) (items : List α) :
    items.mapIdx f = (List.range items.length).filterMap fun i => items[i]?.map (f i) := by
  induction items using List.reverseRecOn with
  | nil => rfl
  | append_singleton items last ih =>
      have before :
          ((List.range items.length).filterMap fun i => (items ++ [last])[i]?.map (f i)) =
            (List.range items.length).filterMap fun i => items[i]?.map (f i) := by
        apply List.filterMap_congr
        intro i hi
        rw [List.getElem?_append_left (List.mem_range.mp hi)]
      rw [List.mapIdx_append, ih, List.length_append, List.length_singleton, List.range_succ,
        List.filterMap_append, before]
      simp

/-- In a list whose keys are not repeated, one element has the key of an element. -/
theorem filter_key_eq_singleton {α κ : Type} [DecidableEq κ] {key : α → κ} {items : List α}
    {item : α} (distinct : (items.map key).Nodup) (listed : item ∈ items) :
    items.filter (fun other => key other == key item) = [item] := by
  obtain ⟨before, after, rfl⟩ := List.append_of_mem listed
  rw [List.map_append, List.map_cons, List.nodup_middle, List.nodup_cons] at distinct
  have fresh : ∀ other ∈ before ++ after, key other ≠ key item := by
    intro other hother same
    exact distinct.1 (by rw [← List.map_append, ← same]; exact List.mem_map_of_mem hother)
  have nothingBefore : before.filter (fun other => key other == key item) = [] := by
    simpa using fun other hother => fresh other (List.mem_append_left after hother)
  have nothingAfter : after.filter (fun other => key other == key item) = [] := by
    simpa using fun other hother => fresh other (List.mem_append_right before hother)
  simp [nothingBefore, nothingAfter]

/-- Where keys are not repeated, what has a key is the same in every arrangement of a list. -/
theorem filter_key_perm {α κ : Type} [DecidableEq κ] {key : α → κ} {first second : List α}
    (distinct : (first.map key).Nodup) (permuted : first.Perm second) (k : κ) :
    first.filter (fun item => key item == k) = second.filter (fun item => key item == k) := by
  have distinctToo : (second.map key).Nodup := (permuted.map key).nodup_iff.mp distinct
  by_cases present : ∃ item ∈ first, key item = k
  · obtain ⟨item, listed, rfl⟩ := present
    rw [filter_key_eq_singleton distinct listed,
      filter_key_eq_singleton distinctToo (permuted.mem_iff.mp listed)]
  · have absent : ∀ item ∈ first, ¬ (key item == k) = true := by simpa using present
    have absentToo : ∀ item ∈ second, ¬ (key item == k) = true :=
      fun item listed => absent item (permuted.mem_iff.mpr listed)
    rw [List.filter_eq_nil_iff.mpr absent, List.filter_eq_nil_iff.mpr absentToo]

/-! ### The first and the last element that give something -/

section Given

variable {α β : Type}

/-- Of the items that give anything, the first one gives `value`. -/
def FirstGiven (gives : α → β → Prop) (items : List α) (value : β) : Prop :=
  ∃ before item after, items = before ++ item :: after ∧ gives item value ∧
    ∀ earlier ∈ before, ∀ other, ¬ gives earlier other

/-- Of the items that give anything, the last one gives `value`. -/
def LastGiven (gives : α → β → Prop) (items : List α) (value : β) : Prop :=
  ∃ before item after, items = before ++ item :: after ∧ gives item value ∧
    ∀ later ∈ after, ∀ other, ¬ gives later other

variable {gives : α → β → Prop} {items : List α} {value : β}

theorem firstGiven_reverse_iff :
    FirstGiven gives items.reverse value ↔ LastGiven gives items value := by
  constructor
  · rintro ⟨after, item, before, split, given, silent⟩
    refine ⟨before.reverse, item, after.reverse, ?_, given, ?_⟩
    · simpa using congrArg List.reverse split
    · intro later hlater
      exact silent later (List.mem_reverse.mp hlater)
  · rintro ⟨before, item, after, split, given, silent⟩
    refine ⟨after.reverse, item, before.reverse, ?_, given, ?_⟩
    · simp [split]
    · intro later hlater
      exact silent later (List.mem_reverse.mp hlater)

theorem FirstGiven.mem (first : FirstGiven gives items value) :
    ∃ item ∈ items, gives item value := by
  obtain ⟨before, item, after, split, given, -⟩ := first
  refine ⟨item, ?_, given⟩
  rw [split]
  exact List.mem_append_right before List.mem_cons_self

/-- If anything is given, something is given first. -/
theorem exists_firstGiven (given : ∃ item ∈ items, ∃ value, gives item value) :
    ∃ value, FirstGiven gives items value := by
  induction items with
  | nil => simp at given
  | cons item rest ih =>
      by_cases silent : ∀ value, ¬ gives item value
      · have givenRest : ∃ later ∈ rest, ∃ value, gives later value := by
          simpa [silent] using given
        obtain ⟨value, before, later, after, rfl, gives, silentBefore⟩ := ih givenRest
        refine ⟨value, item :: before, later, after, rfl, gives, ?_⟩
        exact List.forall_mem_cons.mpr ⟨silent, silentBefore⟩
      · obtain ⟨value, gives⟩ := not_forall_not.mp silent
        exact ⟨value, [], item, rest, rfl, gives, by simp⟩

variable {select : α → Option β}
  (selects : ∀ item value, select item = some value ↔ gives item value)

include selects

theorem select_eq_none_iff (item : α) : select item = none ↔ ∀ value, ¬ gives item value := by
  simp only [← selects, Option.eq_none_iff_forall_ne_some, ne_eq]

/-- The first value that a partial function selects is the one given first. -/
theorem findSome?_eq_some_iff_firstGiven :
    items.findSome? select = some value ↔ FirstGiven gives items value := by
  rw [List.findSome?_eq_some_iff]
  unfold FirstGiven
  simp only [selects, select_eq_none_iff selects]

/-- The last of the values that a partial function selects is the one given last. -/
theorem getLast?_filterMap_eq_some_iff :
    (items.filterMap select).getLast? = some value ↔ LastGiven gives items value := by
  rw [List.getLast?_filterMap, findSome?_eq_some_iff_firstGiven selects, firstGiven_reverse_iff]

theorem getLast?_filterMap_eq_none_iff :
    (items.filterMap select).getLast? = none ↔ ∀ item ∈ items, ∀ value, ¬ gives item value := by
  rw [List.getLast?_eq_none_iff, List.filterMap_eq_nil_iff]
  simp only [select_eq_none_iff selects]

end Given

/-- A place that each step of a run overwrites or lets be holds in the end what was written there
for the last of the selected values. -/
theorem view_foldl_eq_getLast {σ α β γ : Type} (view : σ → γ) {step : σ → α → σ}
    {select : α → Option β} {write : β → γ}
    (writes : ∀ state item, view (step state item) = ((select item).map write).getD (view state))
    (items : List α) (state : σ) :
    view (items.foldl step state) =
      ((items.filterMap select).getLast?.map write).getD (view state) := by
  induction items generalizing state with
  | nil => rfl
  | cons item rest ih =>
      rw [List.foldl_cons, ih, writes]
      cases selected : select item with
      | none => simp [selected]
      | some value =>
          cases last : (rest.filterMap select).getLast? <;>
            simp [selected, last, List.getLast?_cons]

end EntityMapping
