/-
Module: EntityMapping.Proofs.ColumnListPosition
Purpose: Where the list of columns may stand among the arguments of an attribute that declares an
  index. It is found where it stands first: then the entity has an index of its name. Behind other
  arguments it is not found: the attribute is reported as one without columns, and the entity stays
  as it was.
Main exports: Argument.NamedOtherwise, Attribute.ListsColumnsAfter, Draft.FindsColumns,
  Draft.declareIndex_of_declares, Draft.declareIndex_of_unlisted, Draft.findsColumns_iff,
  Draft.columns_behind_name_not_found
-/
import EntityMapping.Proofs.IndexDeclarations

namespace EntityMapping

open Schema (Argument Attribute Expr)

/-- The argument has a name, and not the one of a list of columns. -/
inductive Schema.Argument.NamedOtherwise : Argument → Prop where
  | intro {name : String} {expression : Expr} (other : name ≠ "fields") :
      NamedOtherwise (.named name expression)

/-- The attribute of a model should declare an index over some columns. One of its arguments lists
them; those `before` it and those after it are named otherwise. -/
structure Schema.Attribute.ListsColumnsAfter (attr : Attribute) (before : List Argument)
    (columns : List String) : Prop where
  path : "index" ∈ attr.path ∨ "unique" ∈ attr.path ∨ "fulltext" ∈ attr.path
  nonempty : columns ≠ []
  listed : ∃ arg after, attr.args = before ++ arg :: after ∧ arg.ListsColumns columns ∧
    ∀ other ∈ before ++ after, other.NamedOtherwise

/-- Interpreting the attribute finds the columns: the entity has an index of their name, and no list
of columns is reported as missing. -/
structure Draft.FindsColumns (draft : Draft) (attr : Attribute) (columns : List String) :
    Prop where
  indexed : ∃ index ∈ (draft.declareIndex attr).entity.indices,
    index.name = draft.entity.name ++ "_" ++ "_".intercalate columns ++ "_idx"
  unreported :
    Diagnostic.select .malformedIndex (draft.declareIndex attr).diagnostics =
      Diagnostic.select .malformedIndex draft.diagnostics

/-! ### The first argument -/

section FirstArgument

variable {attr : Attribute} {before : List Argument} {columns : List String}

theorem Schema.Argument.NamedOtherwise.columns?_eq_none {arg : Argument}
    (otherwise : arg.NamedOtherwise) : arg.columns? = none := by
  cases otherwise with
  | intro other => exact if_neg other

/-- An attribute whose first argument lists the columns declares an index over them. -/
theorem Schema.Attribute.ListsColumnsAfter.declares
    (lists : attr.ListsColumnsAfter [] columns) : attr.DeclaresIndexOn columns := by
  obtain ⟨arg, after, split, listed, -⟩ := lists.listed
  exact ⟨lists.path, lists.nonempty, arg, after, split, listed⟩

/-- Behind another argument, the columns are not read. -/
theorem Schema.Attribute.ListsColumnsAfter.indexColumns?_eq_none
    (lists : attr.ListsColumnsAfter before columns) (behind : before ≠ []) :
    attr.indexColumns? = none := by
  obtain ⟨arg, after, split, -, others⟩ := lists.listed
  obtain ⟨first, rest, rfl⟩ := List.exists_cons_of_ne_nil behind
  have otherwise : first.NamedOtherwise := others first List.mem_cons_self
  rw [indexColumns?, split, List.cons_append, List.head?_cons, Option.bind_some,
    otherwise.columns?_eq_none]

namespace Draft

variable (draft : Draft)

theorem declareIndex_of_declares (declares : attr.DeclaresIndexOn columns) :
    draft.declareIndex attr = draft.insertIndex (attr.indexOn draft.entity.name columns) := by
  obtain ⟨declaring, listed⟩ := Attribute.declaresIndexOn_iff.mp declares
  rw [declareIndex_eq, insertIndex_eq]
  simp [Attribute.modelIndices, Attribute.modelRemarks, Attribute.indexOn, declaring, listed]

theorem declareIndex_of_unlisted
    (path : "index" ∈ attr.path ∨ "unique" ∈ attr.path ∨ "fulltext" ∈ attr.path)
    (unlisted : attr.indexColumns? = none) :
    draft.declareIndex attr =
      { draft with
        diagnostics :=
          draft.diagnostics ++
            [{ kind := .malformedIndex
               location := .entity draft.entity.name
               message :=
                "@@" ++ attr.dottedName ++ " has no usable column list; ignored" }] } := by
  have declaring : attr.declaresIndex = true := Attribute.declaresIndex_iff.mpr path
  rw [declareIndex_eq]
  simp [Attribute.modelIndices, Attribute.modelRemarks, declaring, unlisted, extend]

/-- The entity has an index of the name under which one was inserted. -/
theorem exists_index_insertIndex (index : Index) :
    ∃ other ∈ (draft.insertIndex index).entity.indices, other.name = index.name := by
  have exists_found : ((draft.entity.indices ++ [index]).find? fun other =>
      other.name == index.name).isSome := by
    simp
  rw [← find?_appendIfNew, List.find?_isSome] at exists_found
  simpa [insertIndex, Entity.insertIndex] using exists_found

theorem findsColumns_of_declares (declares : attr.DeclaresIndexOn columns) :
    draft.FindsColumns attr columns := by
  constructor
  · rw [draft.declareIndex_of_declares declares]
    exact draft.exists_index_insertIndex (attr.indexOn draft.entity.name columns)
  · rw [draft.declareIndex_of_declares declares]
    rfl

theorem not_findsColumns_of_unlisted
    (path : "index" ∈ attr.path ∨ "unique" ∈ attr.path ∨ "fulltext" ∈ attr.path)
    (unlisted : attr.indexColumns? = none) : ¬ draft.FindsColumns attr columns := by
  intro finds
  have unreported := finds.unreported
  rw [draft.declareIndex_of_unlisted path unlisted] at unreported
  simp [Diagnostic.select] at unreported

/-- The columns of an index are found exactly when their list is the first argument. Otherwise the
attribute is reported as one without columns, and nothing else happens. -/
theorem findsColumns_iff (lists : attr.ListsColumnsAfter before columns) :
    (draft.FindsColumns attr columns ↔ before = []) ∧
      (before ≠ [] →
        draft.declareIndex attr =
          { draft with
            diagnostics :=
              draft.diagnostics ++
                [{ kind := .malformedIndex
                   location := .entity draft.entity.name
                   message :=
                    "@@" ++ attr.dottedName ++ " has no usable column list; ignored" }] }) := by
  constructor
  · constructor
    · intro finds
      by_contra behind
      have unlisted : attr.indexColumns? = none := lists.indexColumns?_eq_none behind
      exact draft.not_findsColumns_of_unlisted lists.path unlisted finds
    · rintro rfl
      exact draft.findsColumns_of_declares lists.declares
  · intro behind
    exact draft.declareIndex_of_unlisted lists.path (lists.indexColumns?_eq_none behind)

end Draft

end FirstArgument

/-! ### A list behind a name -/

/-- The name of an index, as an argument. -/
def loginName : Argument := .named "name" (.literal (.text "login"))

/-- An attribute that names its index before it lists the columns. -/
def namedUnique : Attribute :=
  ⟨["unique"], [loginName, .named "fields" (.array [.path ["user"], .path ["id"]])]⟩

theorem namedUnique_lists : namedUnique.ListsColumnsAfter [loginName] ["user", "id"] := by
  constructor
  · simp [namedUnique]
  · simp
  · refine ⟨_, [], rfl, ?_, ?_⟩
    · exact .named (.cons (.path "user" []) (.cons (.path "id" []) .nil))
    · intro other hother
      obtain rfl : other = loginName := by simpa using hother
      exact .intro (by decide)

namespace Draft

/-- The entity of a model of logins before any member is interpreted. -/
def loginDraft : Draft where
  entity := .model "Login" {}
  diagnostics := []

theorem findsColumns_iff_namedUnique :
    namedUnique.ListsColumnsAfter [loginName] ["user", "id"] ∧
      (loginDraft.FindsColumns namedUnique ["user", "id"] ↔ [loginName] = []) ∧
      ([loginName] ≠ [] →
        loginDraft.declareIndex namedUnique =
          { loginDraft with
            diagnostics :=
              [{ kind := .malformedIndex
                 location := .entity "Login"
                 message := "@@unique has no usable column list; ignored" }] }) :=
  ⟨namedUnique_lists, findsColumns_iff loginDraft namedUnique_lists⟩

/-- A list of columns is not found wherever it stands among the arguments. -/
theorem columns_behind_name_not_found :
    ¬ ∀ (draft : Draft) (attr : Attribute) (before : List Argument) (columns : List String),
      attr.ListsColumnsAfter before columns → draft.FindsColumns attr columns := by
  intro found
  obtain ⟨index, indexed, -⟩ :=
    (found loginDraft namedUnique [loginName] ["user", "id"] namedUnique_lists).indexed
  have unchanged : (loginDraft.declareIndex namedUnique).entity.indices = [] := by decide +kernel
  rw [unchanged] at indexed
  cases indexed

end Draft

end EntityMapping
