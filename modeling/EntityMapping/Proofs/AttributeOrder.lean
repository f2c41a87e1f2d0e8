/-
Module: EntityMapping.Proofs.AttributeOrder
Purpose: The attributes of a field may come in any order in which those that replace each other, or
  add to each other, follow one another as before. A field so rearranged says the same, leaves the
  same entity and reports the same, each kind in the same order. Attributes that only mark the field
  may stand anywhere, and a mark may be repeated.
Main exports: Reordered, Reordered.filter_eq, Attribute.MarksOnly, Attribute.Varied,
  Attribute.SaysAlike, Attribute.Varied.saysAlike, Diagnostic.SameOfKind, FieldReading.AgreesWith,
  Draft.readAttributes_agrees
-/
import EntityMapping.Proofs.IndexDeclarations
import EntityMapping.Proofs.KeyedInsertion
import EntityMapping.Proofs.Remarks
import Mathlib.Data.List.FinRange

namespace EntityMapping

open Schema (Attribute Field)

/-! ### Rows in another order -/

section Rows

variable {α : Type}

/-- The second row has the items of the first one in other places, and of two items that belong
together the one that came first still comes first. -/
def Reordered (together : α → α → Prop) (first second : List α) : Prop :=
  ∃ place : Fin first.length ≃ Fin second.length,
    (∀ i, second.get (place i) = first.get i) ∧
      ∀ i j, i < j → together (first.get i) (first.get j) → place i < place j

/-- The places of the items that pass a test, in order. -/
def placesOf (test : α → Bool) (items : List α) : List (Fin items.length) :=
  (List.finRange items.length).filter (test ∘ items.get)

variable {test : α → Bool} {items : List α}

theorem map_get_placesOf : (placesOf test items).map items.get = items.filter test := by
  rw [placesOf, ← List.filter_map, List.map_get_finRange]

theorem mem_placesOf {i : Fin items.length} : i ∈ placesOf test items ↔ test (items.get i) := by
  simp [placesOf]

theorem pairwise_placesOf : (placesOf test items).Pairwise (· < ·) :=
  (List.pairwise_lt_finRange items.length).filter _

namespace Reordered

variable {together : α → α → Prop} {first second : List α}

theorem mem_iff (reordered : Reordered together first second) {item : α} :
    item ∈ first ↔ item ∈ second := by
  obtain ⟨place, same, -⟩ := reordered
  rw [List.mem_iff_get, List.mem_iff_get]
  constructor
  · rintro ⟨i, rfl⟩
    exact ⟨place i, same i⟩
  · rintro ⟨j, rfl⟩
    refine ⟨place.symm j, ?_⟩
    rw [← same, Equiv.apply_symm_apply]

/-- Where all that passes a test belongs together, what passes it is the same row. -/
theorem filter_eq (reordered : Reordered together first second)
    (joined : ∀ a b, test a → test b → together a b) :
    first.filter test = second.filter test := by
  obtain ⟨place, same, kept⟩ := reordered
  have increasing : ((placesOf test first).map place).Pairwise (· < ·) := by
    rw [List.pairwise_map]
    refine List.Pairwise.imp_of_mem ?_ pairwise_placesOf
    intro i j hi hj before
    exact kept i j before (joined _ _ (mem_placesOf.mp hi) (mem_placesOf.mp hj))
  have samePlaces : ∀ j, j ∈ (placesOf test first).map place ↔ j ∈ placesOf test second := by
    intro j
    rw [List.mem_map, mem_placesOf]
    constructor
    · rintro ⟨i, hi, rfl⟩
      rw [same]
      exact mem_placesOf.mp hi
    · intro passes
      refine ⟨place.symm j, ?_, place.apply_symm_apply j⟩
      rw [mem_placesOf, ← same, Equiv.apply_symm_apply]
      exact passes
  -- Both rows of places are increasing, so having the same elements they are the same.
  have placed : (placesOf test first).map place = placesOf test second :=
    List.Perm.eq_of_pairwise (fun _ _ _ _ before after => absurd after before.asymm) increasing
      pairwise_placesOf
      ((List.perm_ext_iff_of_nodup increasing.nodup pairwise_placesOf.nodup).mpr samePlaces)
  rw [← map_get_placesOf, ← map_get_placesOf, ← placed, List.map_map]
  exact List.map_congr_left fun i _ => (same i).symm

end Reordered

end Rows

/-! ### Attributes in another order -/

namespace Schema.Attribute

/-- The segments whose attributes take each other's place, or add to each other. -/
def orderedSegments : List String := ["db", "default", "relation"]

/-- The segments that mark a field. -/
def markerSegments : List String := ["id", "unique"]

/-- The order of two attributes counts: they share a segment by which one takes the place of the
other, or adds to it. -/
def SharesSegment (first second : Attribute) : Prop :=
  ∃ segment ∈ orderedSegments, segment ∈ first.path ∧ segment ∈ second.path

instance : DecidableRel SharesSegment := fun first second =>
  inferInstanceAs (Decidable (∃ segment ∈ orderedSegments,
    segment ∈ first.path ∧ segment ∈ second.path))

/-- The attribute marks its field at most. -/
def MarksOnly (attr : Attribute) : Prop :=
  ∀ segment ∈ orderedSegments, segment ∉ attr.path

/-- Ways to write the attributes of a field differently. -/
inductive Varied : List Attribute → List Attribute → Prop where
  /-- The attributes come in another order, but those that share a segment do not. -/
  | reordered {first second : List Attribute} (reordered : Reordered SharesSegment first second) :
      Varied first second
  /-- A marker stands elsewhere. -/
  | moved {before after before' after' : List Attribute} {marker : Attribute}
      (marks : marker.MarksOnly) (others : before ++ after = before' ++ after') :
      Varied (before ++ marker :: after) (before' ++ marker :: after')
  /-- A marker says again what some attributes mark already. -/
  | repeated {before after : List Attribute} {marker : Attribute} (marks : marker.MarksOnly)
      (marked : ∀ segment ∈ markerSegments, segment ∈ marker.path →
        ∃ attr ∈ before ++ after, segment ∈ attr.path) :
      Varied (before ++ after) (before ++ marker :: after)

/-- All that is read of a row of attributes: the attributes of each segment whose order counts, and
whether there are any of a marker. -/
structure SaysAlike (first second : List Attribute) : Prop where
  ordered : ∀ segment ∈ orderedSegments,
    first.filter (fun attr => segment ∈ attr.path) = second.filter fun attr => segment ∈ attr.path
  marked : ∀ segment ∈ markerSegments,
    (∃ attr ∈ first, segment ∈ attr.path) ↔ ∃ attr ∈ second, segment ∈ attr.path

section Marker

variable {before after : List Attribute} {marker : Attribute} {segment : String}

theorem filter_insert_of_marksOnly (marks : marker.MarksOnly) (counts : segment ∈ orderedSegments) :
    (before ++ marker :: after).filter (fun attr => segment ∈ attr.path) =
      (before ++ after).filter fun attr => segment ∈ attr.path := by
  rw [List.filter_append, List.filter_append,
    List.filter_cons_of_neg (by simpa using marks segment counts)]

theorem exists_insert_iff :
    (∃ attr ∈ before ++ marker :: after, segment ∈ attr.path) ↔
      segment ∈ marker.path ∨ ∃ attr ∈ before ++ after, segment ∈ attr.path := by
  simp only [List.mem_append, List.mem_cons]
  constructor
  · rintro ⟨attr, earlier | rfl | later, named⟩
    · exact Or.inr ⟨attr, Or.inl earlier, named⟩
    · exact Or.inl named
    · exact Or.inr ⟨attr, Or.inr later, named⟩
  · rintro (named | ⟨attr, earlier | later, named⟩)
    · exact ⟨marker, Or.inr (Or.inl rfl), named⟩
    · exact ⟨attr, Or.inl earlier, named⟩
    · exact ⟨attr, Or.inr (Or.inr later), named⟩

end Marker

theorem Varied.saysAlike {first second : List Attribute} (varied : Varied first second) :
    SaysAlike first second := by
  cases varied with
  | reordered reordered =>
      constructor
      · intro segment counts
        apply reordered.filter_eq
        intro a b ha hb
        exact ⟨segment, counts, by simpa using ha, by simpa using hb⟩
      · intro segment _
        simp only [reordered.mem_iff]
  | moved marks others =>
      constructor
      · intro segment counts
        rw [filter_insert_of_marksOnly marks counts, filter_insert_of_marksOnly marks counts, others]
      · intro segment _
        rw [exists_insert_iff, exists_insert_iff, others]
  | repeated marks marked =>
      constructor
      · intro segment counts
        rw [filter_insert_of_marksOnly marks counts]
      · intro segment marking
        rw [exists_insert_iff]
        exact (or_iff_right_of_imp (marked segment marking)).symm

/-! ### What such attributes say -/

namespace SaysAlike

variable {first second : List Attribute} (alike : SaysAlike first second)

include alike

/-- What only attributes of one segment give, in their order. -/
theorem flatMap_eq {β : Type} {gives : Attribute → List β} (segment : String)
    (counts : segment ∈ orderedSegments) (silent : ∀ attr, segment ∉ attr.path → gives attr = []) :
    first.flatMap gives = second.flatMap gives := by
  have given (attrs : List Attribute) :
      attrs.flatMap gives = (attrs.filter fun attr => segment ∈ attr.path).flatMap gives := by
    induction attrs with
    | nil => rfl
    | cons attr rest ih =>
        by_cases named : segment ∈ attr.path
        · simp [named, ih]
        · simp [named, ih, silent attr named]
  rw [given first, given second, alike.ordered segment counts]

theorem filterMap_eq {β : Type} {gives : Attribute → Option β} (segment : String)
    (counts : segment ∈ orderedSegments)
    (silent : ∀ attr, segment ∉ attr.path → gives attr = none) :
    first.filterMap gives = second.filterMap gives := by
  rw [List.filterMap_eq_flatMap_toList, List.filterMap_eq_flatMap_toList]
  apply alike.flatMap_eq segment counts
  intro attr unnamed
  rw [silent attr unnamed]
  rfl

theorem any_eq (segment : String) (marking : segment ∈ markerSegments) :
    first.any (·.mentions segment) = second.any (·.mentions segment) := by
  rw [Bool.eq_iff_iff]
  simpa [mentions_iff] using alike.marked segment marking

theorem withAttributes_eq (innermost : String) (facts : FieldFacts) :
    facts.withAttributes innermost first = facts.withAttributes innermost second := by
  have storage : first.filterMap storage? = second.filterMap storage? := by
    apply alike.filterMap_eq "db" (by decide)
    intro attr unnamed
    simp [storage?, mt mentions_iff.mp unnamed]
  have length : first.filterMap length? = second.filterMap length? := by
    apply alike.filterMap_eq "db" (by decide)
    intro attr unnamed
    simp [length?, mt mentions_iff.mp unnamed]
  have default : first.filterMap (default? innermost) = second.filterMap (default? innermost) := by
    apply alike.filterMap_eq "default" (by decide)
    intro attr unnamed
    simp [default?, mt mentions_iff.mp unnamed]
  have relation :
      first.filter (·.mentions "relation") = second.filter (·.mentions "relation") := by
    simpa only [mentions_eq] using alike.ordered "relation" (by decide)
  have primary := alike.any_eq "id" (by decide)
  have unique := alike.any_eq "unique" (by decide)
  unfold FieldFacts.withAttributes
  rw [storage, length, default, relation, primary, unique]

/-- What is reported of one kind is reported in the same order. -/
theorem select_remarks_eq (owner field : String) (kind : Diagnostic.Kind) :
    Diagnostic.select kind (first.flatMap (remarks owner field)) =
      Diagnostic.select kind (second.flatMap (remarks owner field)) := by
  unfold Diagnostic.select
  rw [List.filter_flatMap, List.filter_flatMap]
  -- Only a storage type reports a length, and only a relation attribute reports anything else, so
  -- what is reported of one kind comes from the attributes of one segment.
  by_cases length : kind = .invalidLength
  · apply alike.flatMap_eq "db" (by decide)
    intro attr unnamed
    rw [List.filter_eq_nil_iff]
    intro d listed
    obtain ⟨other, message, rfl, ⟨rfl, named⟩ | ⟨rfl, -⟩⟩ := mem_remarks listed
    · exact absurd named unnamed
    · simp [Diagnostic.ofField, length]
  · apply alike.flatMap_eq "relation" (by decide)
    intro attr unnamed
    rw [List.filter_eq_nil_iff]
    intro d listed
    obtain ⟨other, message, rfl, ⟨rfl, -⟩ | ⟨rfl, named⟩⟩ := mem_remarks listed
    · simpa [Diagnostic.ofField] using Ne.symm length
    · exact absurd named unnamed

end SaysAlike

/-- Attributes that make a field unique offer one index, however many they are. -/
theorem appendEachNew_keyIndices (owner field : String) (items : List Index)
    (attrs : List Attribute) :
    appendEachNew Index.name items (attrs.flatMap (keyIndices owner field)) =
      if attrs.any (·.mentions "unique") then
        (appendIfNew Index.name items (.ofUniqueField owner field)).1
      else items := by
  have offered {index : Index} : index ∈ attrs.flatMap (keyIndices owner field) ↔
      attrs.any (·.mentions "unique") = true ∧ .ofUniqueField owner field = index := by
    simp [mem_keyIndices_iff, mentions_iff]
    tauto
  split
  case isTrue unique =>
    apply appendEachNew_of_forall_eq
    · exact List.ne_nil_of_mem (offered.mpr ⟨unique, rfl⟩)
    · intro other listed
      exact (offered.mp listed).2.symm
  case isFalse plain =>
    have nothing : attrs.flatMap (keyIndices owner field) = [] := by
      apply List.eq_nil_iff_forall_not_mem.mpr
      intro index listed
      exact plain (offered.mp listed).1
    rw [nothing]
    rfl

end Schema.Attribute

/-! ### Readings that agree -/

/-- Two rows of diagnostics have the same diagnostics, those of each kind in the same order. -/
structure Diagnostic.SameOfKind (first second : List Diagnostic) : Prop where
  perm : first.Perm second
  ofKind : ∀ kind, select kind first = select kind second

/-- Two readings of a field in a draft agree: they differ in nothing but the order in which they
recorded diagnostics of different kinds. -/
structure FieldReading.AgreesWith (draft : Draft) (first second : FieldReading) : Prop where
  facts : first.facts = second.facts
  entity : first.draft.entity = second.draft.entity
  diagnostics : ∃ recorded recorded',
    first.draft.diagnostics = draft.diagnostics ++ recorded ∧
      second.draft.diagnostics = draft.diagnostics ++ recorded' ∧
        Diagnostic.SameOfKind recorded recorded'

/-- Rows that have the same of each kind have the same altogether. -/
theorem Diagnostic.sameOfKind_of_select_eq {first second : List Diagnostic}
    (same : ∀ kind, select kind first = select kind second) : SameOfKind first second := by
  have selected (d : Diagnostic) (diagnostics : List Diagnostic) :
      (select d.kind diagnostics).count d = diagnostics.count d :=
    List.count_filter (by simp)
  constructor
  · rw [List.perm_iff_count]
    intro d
    rw [← selected d first, ← selected d second, same]
  · exact same

/-- A field whose attributes are written differently is read alike, whatever the draft holds. -/
theorem Draft.readAttributes_agrees (draft : Draft) {field : Field} {attributes : List Attribute}
    (varied : Attribute.Varied field.attributes attributes) :
    FieldReading.AgreesWith draft (draft.readAttributes field)
      (draft.readAttributes { field with attributes := attributes }) := by
  have alike := varied.saysAlike
  rw [readAttributes_eq, readAttributes_eq]
  constructor
  · exact alike.withAttributes_eq field.type.innermost {}
  · simp only [extend, Field.annotations, Attribute.appendEachNew_keyIndices,
      alike.any_eq "unique" (by decide)]
  · refine ⟨_, _, rfl, rfl, ?_⟩
    apply Diagnostic.sameOfKind_of_select_eq
    intro kind
    exact alike.select_remarks_eq draft.entity.name field.name kind

/-! ### A time of publication -/

/-- A field with a storage type that has no length, two defaults, the second one in a relation
attribute of no use, and two markers. -/
def publishedField : Field where
  name := "published"
  type := .named "DateTime"
  attributes :=
    [⟨["id"], []⟩, ⟨["db", "Text"], [.positional (.literal (.text "long"))]⟩,
      ⟨["default"], [.positional (.call ["now"] [])]⟩, ⟨["unique"], []⟩,
      ⟨["relation", "default"], [.positional (.path ["draft"])]⟩]

/-- The attributes of `publishedField` with the storage type and the key at the end. -/
def publishedRearranged : List Attribute :=
  [⟨["default"], [.positional (.call ["now"] [])]⟩,
    ⟨["relation", "default"], [.positional (.path ["draft"])]⟩, ⟨["unique"], []⟩,
    ⟨["db", "Text"], [.positional (.literal (.text "long"))]⟩, ⟨["id"], []⟩]

/-- Where each attribute of `publishedField` stands in `publishedRearranged`. -/
def publishedPlaces : Fin 5 ≃ Fin 5 where
  toFun i := ([4, 3, 0, 2, 1] : List (Fin 5)).get i
  invFun i := ([2, 4, 3, 1, 0] : List (Fin 5)).get i
  left_inv i := by revert i; decide
  right_inv i := by revert i; decide

/-- The draft of a model of articles. -/
def articleDraft : Draft where
  entity := .model "Article" {}
  diagnostics := []

theorem Draft.readAttributes_agrees_published :
    Attribute.Varied publishedField.attributes publishedRearranged ∧
      FieldReading.AgreesWith articleDraft (articleDraft.readAttributes publishedField)
        (articleDraft.readAttributes
          { publishedField with attributes := publishedRearranged }) ∧
      Attribute.Varied publishedField.attributes
        (⟨["unique"], []⟩ :: publishedField.attributes) ∧
      FieldReading.AgreesWith articleDraft (articleDraft.readAttributes publishedField)
        (articleDraft.readAttributes
          { publishedField with
            attributes := ⟨["unique"], []⟩ :: publishedField.attributes }) := by
  have same : ∀ i : Fin 5,
      publishedRearranged.get (publishedPlaces i) = publishedField.attributes.get i
    | 0 | 1 | 2 | 3 | 4 => rfl
  have reordered :
      Reordered Attribute.SharesSegment publishedField.attributes publishedRearranged :=
    ⟨publishedPlaces, same, by decide⟩
  have marks : Attribute.MarksOnly ⟨["unique"], []⟩ := by
    unfold Attribute.MarksOnly
    decide
  have marked : ∀ segment ∈ Attribute.markerSegments, segment ∈ ["unique"] →
      ∃ attr ∈ [] ++ publishedField.attributes, segment ∈ attr.path := by
    decide
  have varied := Attribute.Varied.reordered reordered
  have variedToo : Attribute.Varied ([] ++ publishedField.attributes)
      ([] ++ ⟨["unique"], []⟩ :: publishedField.attributes) := .repeated marks marked
  exact ⟨varied, articleDraft.readAttributes_agrees varied, variedToo,
    articleDraft.readAttributes_agrees variedToo⟩

end EntityMapping
