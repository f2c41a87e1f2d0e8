/-
Module: EntityMapping.Proofs.KeyedInsertion
Purpose: Items that are offered one after the other to a list that is a set of keys, and indices and
  files that are offered to an entity in any order. An offer is taken exactly when its key is new,
  at the end of the list, and nothing that the list has is moved, changed or lost. So the keys stay
  distinct, and the same offers made again are all turned away.
Main exports: offerEach, Remembers, Remembers.again, Offered, OfferedEach, KeepsFirsts,
  Entity.Addition, Entity.add, Entity.NamesDistinct, Entity.KeepsNames, offerEach_keepsFirsts
-/
import EntityMapping.Proofs.KeyedList

namespace EntityMapping

/-! ### Offers one after the other -/

section Offers

variable {σ α : Type}

/-- Makes offers one after the other: the state after the last one, and which of them were taken. -/
def offerEach (offer : σ → α → σ × Bool) (state : σ) : List α → σ × List Bool
  | [] => (state, [])
  | item :: rest =>
      let (next, taken) := offer state item
      let (last, others) := offerEach offer next rest
      (last, taken :: others)

/-- Offers are remembered: what was offered is held from then on, and an offer of what is held is
turned away and changes nothing. -/
structure Remembers (offer : σ → α → σ × Bool) (holds : σ → α → Prop) : Prop where
  takesIn : ∀ state item, holds (offer state item).1 item
  keeps : ∀ state item other, holds state item → holds (offer state other).1 item
  turnsAway : ∀ state item, holds state item → offer state item = (state, false)

variable {offer : σ → α → σ × Bool}

/-- What every offer preserves, a run of offers preserves. -/
theorem offerEach_preserves {good : σ → Prop}
    (preserved : ∀ state item, good state → good (offer state item).1) (items : List α) {state : σ}
    (start : good state) : good (offerEach offer state items).1 := by
  induction items generalizing state with
  | nil => exact start
  | cons item rest ih => exact ih (preserved state item start)

namespace Remembers

variable {holds : σ → α → Prop} (remembers : Remembers offer holds)

include remembers

theorem holds_offerEach (items : List α) (state : σ) :
    ∀ item ∈ items, holds (offerEach offer state items).1 item := by
  induction items generalizing state with
  | nil => simp
  | cons first rest ih =>
      intro item listed
      rcases List.mem_cons.mp listed with rfl | later
      · -- What the first offer left is held through all the later ones.
        exact offerEach_preserves (fun state other => remembers.keeps state item other) rest
          (remembers.takesIn state item)
      · exact ih _ item later

theorem offerEach_of_holds {items : List α} {state : σ} (held : ∀ item ∈ items, holds state item) :
    offerEach offer state items = (state, items.map fun _ => false) := by
  induction items with
  | nil => rfl
  | cons item rest ih =>
      obtain ⟨first, others⟩ := List.forall_mem_cons.mp held
      rw [offerEach, remembers.turnsAway state item first]
      simp only [ih others, List.map_cons]

/-- The same offers made again are all turned away. -/
theorem again (items : List α) (state : σ) :
    offerEach offer (offerEach offer state items).1 items =
      ((offerEach offer state items).1, items.map fun _ => false) :=
  remembers.offerEach_of_holds (remembers.holds_offerEach items state)

end Remembers

end Offers

/-! ### Items for a list -/

section Items

variable {α κ : Type} {key : α → κ}

/-- What becomes of one offer to a list: the list after it, and whether the item was taken. -/
structure Offered (key : α → κ) (items : List α) (item : α) (result : List α × Bool) : Prop where
  taken_iff_new : result.2 = true ↔ key item ∉ items.map key
  taken_iff_appended : result.2 = true ↔ result.1 = items ++ [item]
  refused_iff_unchanged : result.2 = false ↔ result.1 = items

/-- What becomes of offers made one after the other, each to the list that the one before it
left. -/
inductive OfferedEach (key : α → κ) : List α → List α → List α × List Bool → Prop where
  | nil (items : List α) : OfferedEach key items [] (items, [])
  | cons {items next last rest : List α} {item : α} {taken : Bool} {others : List Bool}
      (first : Offered key items item (next, taken))
      (later : OfferedEach key next rest (last, others)) :
      OfferedEach key items (item :: rest) (last, taken :: others)

variable [BEq κ]

theorem offerEach_appendIfNew_fst (items pushed : List α) :
    (offerEach (appendIfNew key) items pushed).1 = appendEachNew key items pushed := by
  induction pushed generalizing items with
  | nil => rfl
  | cons item rest ih => exact ih _

variable [LawfulBEq κ]

theorem offered_appendIfNew (items : List α) (item : α) :
    Offered key items item (appendIfNew key items item) := by
  by_cases known : key item ∈ items.map key
  · rw [appendIfNew_of_known known]
    constructor <;> simp [known]
  · rw [appendIfNew_of_new known]
    constructor <;> simp [known]

theorem offeredEach_appendIfNew (items pushed : List α) :
    OfferedEach key items pushed (offerEach (appendIfNew key) items pushed) := by
  induction pushed generalizing items with
  | nil => exact .nil items
  | cons item rest ih => exact .cons (offered_appendIfNew items item) (ih _)

/-- A list remembers the keys of what was offered to it. -/
theorem remembers_appendIfNew :
    Remembers (appendIfNew key) fun items item => key item ∈ items.map key := by
  constructor
  · intro items item
    exact mem_map_appendIfNew_iff.mpr (Or.inr rfl)
  · intro items item other known
    exact mem_map_appendIfNew_iff.mpr (Or.inl known)
  · intro items item known
    exact appendIfNew_of_known known

theorem appendEachNew_of_known {items added : List α}
    (known : ∀ item ∈ added, key item ∈ items.map key) : appendEachNew key items added = items := by
  rw [← offerEach_appendIfNew_fst, remembers_appendIfNew.offerEach_of_holds known]

/-- An item that is offered again and again is taken at the first time, if at all. -/
theorem appendEachNew_of_forall_eq {items added : List α} {item : α} (nonempty : added ≠ [])
    (same : ∀ other ∈ added, other = item) :
    appendEachNew key items added = (appendIfNew key items item).1 := by
  cases added with
  | nil => exact absurd rfl nonempty
  | cons first rest =>
      obtain ⟨rfl, others⟩ := List.forall_mem_cons.mp same
      rw [← List.singleton_append, appendEachNew_append, appendEachNew_singleton]
      apply appendEachNew_of_known
      intro other listed
      rw [others other listed]
      exact remembers_appendIfNew.takesIn items first

/-- What a row of offers makes of a list with distinct keys. -/
structure KeepsFirsts [DecidableEq κ] (key : α → κ) (items pushed : List α)
    (result : List α × List Bool) : Prop where
  /-- The list goes on, in the order of the offers, with the first item of each key that it has
  not. -/
  firsts : ∃ fresh, result.1 = items ++ fresh ∧
    FirstOfEach key (pushed.filter fun item => key item ∉ items.map key) fresh
  distinct : (result.1.map key).Nodup
  /-- Every offer is taken, at the end of the list as it then is, exactly when its key is new. -/
  each : OfferedEach key items pushed result
  again : offerEach (appendIfNew key) result.1 pushed = (result.1, pushed.map fun _ => false)

end Items

/-! ### Indices and files for an entity -/

/-- What an entity takes in once per name. -/
inductive Entity.Addition where
  | index (i : Index)
  | file (name : String)

namespace Entity

/-- Offers an addition to an entity. The flag tells whether it was taken. -/
def add (entity : Entity) : Addition → Entity × Bool
  | .index i => entity.insertIndex i
  | .file name => entity.insertImport name

/-- The entity has an index or a file of the name of an addition. -/
def Names (entity : Entity) : Addition → Prop
  | .index i => i.name ∈ entity.indices.map Index.name
  | .file name => name ∈ entity.imports.map ImportedFile.entityName

/-- No two indices of the entity have one name, and no two of its imported files. -/
structure NamesDistinct (entity : Entity) : Prop where
  indices : (entity.indices.map Index.name).Nodup
  imports : (entity.imports.map ImportedFile.entityName).Nodup

theorem namesDistinct_add (entity : Entity) (addition : Addition)
    (distinct : entity.NamesDistinct) : (entity.add addition).1.NamesDistinct := by
  cases addition with
  | index i => exact ⟨nodup_appendIfNew i distinct.indices, distinct.imports⟩
  | file name =>
      have files := nodup_appendIfNew (ImportedFile.ofEntity name) distinct.imports
      exact ⟨distinct.indices, files⟩

/-- An entity remembers the names of what was offered to it. -/
theorem remembers_add : Remembers add Names := by
  constructor
  · intro entity addition
    cases addition with
    | index i => exact remembers_appendIfNew.takesIn entity.indices i
    | file name => exact remembers_appendIfNew.takesIn entity.imports (.ofEntity name)
  · intro entity addition other known
    cases addition with
    | index i =>
        cases other with
        | index j => exact remembers_appendIfNew.keeps entity.indices i j known
        | file name => exact known
    | file name =>
        cases other with
        | index j => exact known
        | file given =>
            exact remembers_appendIfNew.keeps entity.imports (.ofEntity name) (.ofEntity given)
              known
  · intro entity addition known
    cases addition with
    | index i =>
        rw [add, insertIndex, appendIfNew_of_known known]
    | file name =>
        have held : (ImportedFile.ofEntity name).entityName ∈
            entity.imports.map ImportedFile.entityName := known
        rw [add, insertImport, appendIfNew_of_known held]

/-- What a row of additions, of indices and files in any order, makes of an entity whose names are
distinct. -/
structure KeepsNames (additions : List Addition) (result : Entity × List Bool) : Prop where
  distinct : result.1.NamesDistinct
  again : offerEach add result.1 additions = (result.1, additions.map fun _ => false)

end Entity

/-! ### Any row of offers -/

/-- Lists with distinct keys keep the first item of each key, whatever is offered to them, and so do
the indices and the files of an entity. -/
theorem offerEach_keepsFirsts :
    (∀ {α κ : Type} [BEq κ] [LawfulBEq κ] [DecidableEq κ] (key : α → κ) (items pushed : List α),
      (items.map key).Nodup →
        KeepsFirsts key items pushed (offerEach (appendIfNew key) items pushed)) ∧
      ∀ (entity : Entity) (additions : List Entity.Addition), entity.NamesDistinct →
        Entity.KeepsNames additions (offerEach Entity.add entity additions) := by
  constructor
  · intro α κ _ _ _ key items pushed distinct
    constructor
    · rw [offerEach_appendIfNew_fst]
      exact appendEachNew_eq items pushed
    · have preserved : ∀ held item, (held.map key).Nodup →
          ((appendIfNew key held item).1.map key).Nodup :=
        fun held item => nodup_appendIfNew item
      exact offerEach_preserves preserved pushed distinct
    · exact offeredEach_appendIfNew items pushed
    · exact remembers_appendIfNew.again pushed items
  · intro entity additions distinct
    constructor
    · exact offerEach_preserves Entity.namesDistinct_add additions distinct
    · exact Entity.remembers_add.again additions entity

example :
    offerEach (appendIfNew Prod.fst) [("a", 1)] [("a", 2), ("b", 3), ("b", 4)] =
      ([("a", 1), ("b", 3)], [false, true, false]) := by
  decide

/-- The table of a user with one unique field. -/
def userTable : Entity :=
  { Entity.model "User" {} with indices := [.ofUniqueField "User" "email"] }

/-- Indices and files, some of which `userTable` has, and some of which are offered twice. -/
def userAdditions : List Entity.Addition :=
  [.index (.ofUniqueField "User" "email"), .file "Role",
    .index (.ofColumns "User" ["email"] true false), .file "Role",
    .index (.ofColumns "User" ["email"] false true)]

theorem offerEach_keepsFirsts_userTable :
    ([("a", 1)].map Prod.fst).Nodup ∧
      KeepsFirsts Prod.fst [("a", 1)] [("a", 2), ("b", 3), ("b", 4)]
        (offerEach (appendIfNew Prod.fst) [("a", 1)] [("a", 2), ("b", 3), ("b", 4)]) ∧
      userTable.NamesDistinct ∧
      Entity.KeepsNames userAdditions (offerEach Entity.add userTable userAdditions) := by
  have distinctKeys : ([("a", 1)].map Prod.fst).Nodup := List.nodup_singleton _
  have distinctNames : userTable.NamesDistinct := ⟨List.nodup_singleton _, List.nodup_nil⟩
  exact ⟨distinctKeys, offerEach_keepsFirsts.1 Prod.fst _ _ distinctKeys, distinctNames,
    offerEach_keepsFirsts.2 userTable userAdditions distinctNames⟩

end EntityMapping
