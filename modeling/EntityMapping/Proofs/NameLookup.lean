/-
Module: EntityMapping.Proofs.NameLookup
Purpose: What a name refers to: the last declaration that gives it. Where names are not repeated,
  every declaration is the one that its name refers to. Names of builtin types are looked up by what
  they are called in code, all others as they stand.
Main exports: BuiltinType.names, valueName_of_not_mem, Schema.LastNamed, Schema.lookup_eq_some_iff,
  Schema.lookup_eq_none_iff, Schema.lookup_eq_getLast?, Schema.mem_of_lookup, Schema.lookup_of_mem,
  Schema.model?_eq_some_iff, Schema.lookup_of_nodup
-/
import EntityMapping.BuiltinType
import EntityMapping.Schema.Basic

namespace EntityMapping

/-- The names of the types that a schema knows by itself. -/
def BuiltinType.names : List String := ["String", "Int", "Boolean", "DateTime", "Json"]

theorem BuiltinType.ofName?_of_not_mem {name : String} (other : name ∉ names) :
    ofName? name = none := by
  simp only [names, List.mem_cons, List.not_mem_nil, or_false, not_or] at other
  obtain ⟨noString, noInt, noBoolean, noDateTime, noJson⟩ := other
  simp [ofName?, noString, noInt, noBoolean, noDateTime, noJson]

/-- A name that is not builtin stands for itself. -/
theorem valueName_of_not_mem {name : String} (other : name ∉ BuiltinType.names) :
    valueName name = name := by
  simp [valueName, BuiltinType.ofName?_of_not_mem other]

end EntityMapping

namespace EntityMapping.Schema

variable {schema : Schema} {name : String} {declaration : Declaration}

/-- The declaration gives the name, and none after it does. -/
def LastNamed (schema : Schema) (name : String) (declaration : Declaration) : Prop :=
  declaration.name? = some name ∧
    ∃ before after, schema.declarations = before ++ declaration :: after ∧
      ∀ later ∈ after, later.name? ≠ some name

/-- A name refers to the last declaration that gives it. -/
theorem lookup_eq_some_iff :
    schema.lookup name = some declaration ↔ schema.LastNamed name declaration := by
  unfold LastNamed
  unfold lookup
  rw [List.find?_eq_some_iff_append]
  constructor
  · rintro ⟨gives, after, before, split, unnamed⟩
    refine ⟨by simpa using gives, before.reverse, after.reverse, ?_, ?_⟩
    · simpa using congrArg List.reverse split
    · intro later hlater
      simpa using unnamed later (List.mem_reverse.mp hlater)
  · rintro ⟨gives, before, after, split, unnamed⟩
    refine ⟨by simpa using gives, after.reverse, before.reverse, ?_, ?_⟩
    · simp [split]
    · intro later hlater
      simpa using unnamed later (List.mem_reverse.mp hlater)

/-- A name refers to nothing exactly when no declaration gives it. -/
theorem lookup_eq_none_iff :
    schema.lookup name = none ↔ ∀ d ∈ schema.declarations, d.name? ≠ some name := by
  simp [lookup]

/-- A name refers to the last of the declarations that give it. -/
theorem lookup_eq_getLast? :
    schema.lookup name =
      (schema.declarations.filter fun d => d.name? == some name).getLast? := by
  rw [lookup, ← List.head?_filter, List.filter_reverse, List.head?_reverse]

theorem name?_of_lookup (found : schema.lookup name = some declaration) :
    declaration.name? = some name :=
  (lookup_eq_some_iff.mp found).1

theorem mem_of_lookup (found : schema.lookup name = some declaration) :
    declaration ∈ schema.declarations := by
  obtain ⟨-, before, after, split, -⟩ := lookup_eq_some_iff.mp found
  rw [split]
  exact List.mem_append_right before List.mem_cons_self

theorem lookup_of_mem (declared : declaration ∈ schema.declarations)
    (gives : declaration.name? = some name) :
    ∃ last, schema.lookup name = some last := by
  cases found : schema.lookup name with
  | none => exact absurd gives (lookup_eq_none_iff.mp found declaration declared)
  | some last => exact ⟨last, rfl⟩

/-- No name refers to a declaration of no known sort. -/
theorem lookup_ne_unknown : schema.lookup name ≠ some .unknown := by
  intro found
  simpa [Declaration.name?] using name?_of_lookup found

theorem model?_eq_some_iff {m : Model} :
    schema.model? name = some m ↔ schema.lookup name = some (.model m) := by
  unfold model?
  cases schema.lookup name with
  | none => simp
  | some found => cases found <;> simp

theorem name_of_model? {m : Model} (read : schema.model? name = some m) : m.name = name :=
  Option.some.inj (name?_of_lookup (model?_eq_some_iff.mp read))

/-- Where names are not repeated, a name refers to any declaration that gives it. -/
theorem lookup_of_nodup (distinct : (schema.declarations.filterMap Declaration.name?).Nodup)
    (declared : declaration ∈ schema.declarations) (gives : declaration.name? = some name) :
    schema.lookup name = some declaration := by
  obtain ⟨before, after, split⟩ := List.append_of_mem declared
  refine lookup_eq_some_iff.mpr ⟨gives, before, after, split, ?_⟩
  intro later hlater same
  rw [split, List.filterMap_append, List.filterMap_cons_some gives] at distinct
  have fresh : name ∉ after.filterMap Declaration.name? :=
    (List.nodup_cons.mp (List.nodup_append.mp distinct).2.1).1
  exact fresh (List.mem_filterMap.mpr ⟨later, hlater, same⟩)

end EntityMapping.Schema
