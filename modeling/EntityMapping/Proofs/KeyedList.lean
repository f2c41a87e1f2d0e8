/-
Module: EntityMapping.Proofs.KeyedList
Purpose: What is left of a list in which the first element of each key stays and every later one is
  turned away.
Main exports: appendIfNew_of_known, appendIfNew_of_new, find?_appendEachNew, nodup_appendEachNew,
  mem_appendEachNew_iff, FirstOfEach, appendEachNew_eq, firstOfEach_appendEachNew
-/
import EntityMapping.Proofs.Contribution
import EntityMapping.Proofs.Selection

namespace EntityMapping

section Lawful

variable {α κ : Type} [BEq κ] [LawfulBEq κ] {key : α → κ}

/-! ### One element -/

theorem appendIfNew_of_known {items : List α} {item : α} (known : key item ∈ items.map key) :
    appendIfNew key items item = (items, false) := by
  have held : (items.any fun existing => key existing == key item) = true := by
    simpa using known
  exact if_pos held

theorem appendIfNew_of_new {items : List α} {item : α} (fresh : key item ∉ items.map key) :
    appendIfNew key items item = (items ++ [item], true) := by
  have unheld : ¬ (items.any fun existing => key existing == key item) = true := by
    simpa using fresh
  exact if_neg unheld

theorem mem_map_appendIfNew_iff {items : List α} {item : α} {k : κ} :
    k ∈ (appendIfNew key items item).1.map key ↔ k ∈ items.map key ∨ k = key item := by
  by_cases known : key item ∈ items.map key
  · rw [appendIfNew_of_known known, or_iff_left_of_imp]
    rintro rfl
    exact known
  · rw [appendIfNew_of_new known, List.map_append, List.mem_append, List.map_singleton,
      List.mem_singleton]

theorem find?_appendIfNew (k : κ) (items : List α) (item : α) :
    (appendIfNew key items item).1.find? (fun i => key i == k) =
      (items ++ [item]).find? fun i => key i == k := by
  by_cases known : key item ∈ items.map key
  · rw [appendIfNew_of_known known, List.find?_append]
    obtain ⟨existing, listed, same⟩ := List.mem_map.mp known
    cases found : items.find? fun i => key i == k with
    | some first => rfl
    | none =>
        have other : ¬ (key item == k) = true := by
          rw [← same]
          exact List.find?_eq_none.mp found existing listed
        simp [other]
  · rw [appendIfNew_of_new known]

theorem nodup_appendIfNew {items : List α} (item : α) (distinct : (items.map key).Nodup) :
    ((appendIfNew key items item).1.map key).Nodup := by
  by_cases known : key item ∈ items.map key
  · rw [appendIfNew_of_known known]
    exact distinct
  · rw [appendIfNew_of_new known, List.map_append, List.nodup_append]
    refine ⟨distinct, List.nodup_singleton _, ?_⟩
    rintro k listed _ hitem rfl
    rw [List.map_singleton, List.mem_singleton] at hitem
    exact known (hitem ▸ listed)

/-! ### All elements -/

/-- The first element of a key is the first one that was offered. -/
theorem find?_appendEachNew (k : κ) (items added : List α) :
    (appendEachNew key items added).find? (fun i => key i == k) =
      (items ++ added).find? fun i => key i == k := by
  induction added generalizing items with
  | nil => simp
  | cons item rest ih =>
      rw [← List.singleton_append, appendEachNew_append, ih, List.find?_append,
        appendEachNew_singleton, find?_appendIfNew, ← List.find?_append, List.append_assoc]

/-- No key is taken in twice. -/
theorem nodup_appendEachNew {items : List α} (added : List α)
    (distinct : (items.map key).Nodup) : ((appendEachNew key items added).map key).Nodup := by
  induction added generalizing items with
  | nil => exact distinct
  | cons item rest ih => exact ih (nodup_appendIfNew item distinct)

end Lawful

section FirstOfEach

variable {α κ : Type} [DecidableEq κ] {key : α → κ}

/-- What is left of a list is the first element of each key. -/
theorem mem_appendEachNew_iff {items : List α} {item : α} :
    item ∈ appendEachNew key [] items ↔ items.find? (fun i => key i == key item) = some item := by
  rw [← List.nil_append items, ← find?_appendEachNew, List.nil_append]
  constructor
  · intro listed
    have distinct : ((appendEachNew key [] items).map key).Nodup :=
      nodup_appendEachNew items List.nodup_nil
    rw [← List.head?_filter, filter_key_eq_singleton distinct listed]
    rfl
  · exact List.mem_of_find?_eq_some

/-! ### The first item of each key -/

/-- Of each key the first item is kept, and the later ones are left out. -/
inductive FirstOfEach (key : α → κ) : List α → List α → Prop where
  | nil : FirstOfEach key [] []
  | cons {item : α} {rest kept : List α}
      (others : FirstOfEach key (rest.filter fun other => key other ≠ key item) kept) :
      FirstOfEach key (item :: rest) (item :: kept)

/-- The items alone decide what is kept. -/
theorem FirstOfEach.unique {items kept keptToo : List α} (first : FirstOfEach key items kept)
    (second : FirstOfEach key items keptToo) : keptToo = kept := by
  induction first generalizing keptToo with
  | nil => cases second; rfl
  | cons _ ih =>
      cases second with
      | cons others => rw [ih others]

/-- The keys of the first items are the keys of the items, each where it occurs first. -/
theorem FirstOfEach.map_key {items kept : List α} (first : FirstOfEach key items kept) :
    FirstOfEach id (items.map key) (kept.map key) := by
  induction first with
  | nil => exact .nil
  | cons _ ih =>
      apply FirstOfEach.cons
      rw [List.filter_map]
      exact ih

end FirstOfEach

variable {α κ : Type} [BEq κ] [LawfulBEq κ] [DecidableEq κ] {key : α → κ}

/-- Appending each item with a new key appends the first item of each key that is new. -/
theorem appendEachNew_eq (items added : List α) :
    ∃ kept, appendEachNew key items added = items ++ kept ∧
      FirstOfEach key (added.filter fun item => key item ∉ items.map key) kept := by
  induction added generalizing items with
  | nil => exact ⟨[], by simp, .nil⟩
  | cons item rest ih =>
      rw [← List.singleton_append, appendEachNew_append, appendEachNew_singleton]
      by_cases known : key item ∈ items.map key
      · rw [appendIfNew_of_known known]
        obtain ⟨kept, appended, first⟩ := ih items
        refine ⟨kept, appended, ?_⟩
        rwa [List.singleton_append, List.filter_cons_of_neg (by simpa using known)]
      · rw [appendIfNew_of_new known]
        obtain ⟨kept, appended, first⟩ := ih (items ++ [item])
        refine ⟨item :: kept, by simpa using appended, ?_⟩
        rw [List.singleton_append, List.filter_cons_of_pos (by simpa using known)]
        apply FirstOfEach.cons
        have both (other : α) :
            (key other ∉ (items ++ [item]).map key) ↔
              key other ≠ key item ∧ key other ∉ items.map key := by
          simp only [List.map_append, List.map_singleton, List.mem_append, List.mem_singleton]
          tauto
        simpa only [List.filter_filter, both, Bool.decide_and] using first

theorem firstOfEach_appendEachNew (items : List α) :
    FirstOfEach key items (appendEachNew key [] items) := by
  obtain ⟨kept, appended, first⟩ :
      ∃ kept, appendEachNew key [] items = [] ++ kept ∧
        FirstOfEach key (items.filter fun item => key item ∉ ([] : List α).map key) kept :=
    appendEachNew_eq [] items
  rw [appended]
  simpa using first

end EntityMapping
