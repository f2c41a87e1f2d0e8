/-
Module: EntityMapping.Proofs.FieldFacts
Purpose: What reading the attributes of a field comes to, without the draft that it runs on. The
  facts depend on the attributes alone; what is added to the draft depends on the attributes, the
  field and the name of the entity.
Main exports: FieldFacts.withAttributes, FieldReading.apply_eq, Field.facts, Field.annotations,
  Draft.readAttributes_eq
-/
import EntityMapping.Proofs.RelationClause

namespace EntityMapping

open Schema (Argument Attribute Field)

/-! ### One attribute -/

namespace Schema.Attribute

theorem mentions_iff {attr : Attribute} {segment : String} :
    attr.mentions segment = true ↔ segment ∈ attr.path := by
  simp [mentions]

theorem mentions_eq (attr : Attribute) (segment : String) :
    attr.mentions segment = decide (segment ∈ attr.path) := by
  rw [Bool.eq_iff_iff, mentions_iff, decide_eq_true_iff]

/-- The storage type that an attribute asks for. -/
def storage? (attr : Attribute) : Option String :=
  if attr.mentions "db" then attr.path[1]?.map nativeStorageName else none

/-- The length that an attribute gives. -/
def length? (attr : Attribute) : Option Nat :=
  if attr.mentions "db" then attr.args.head?.bind Argument.length? else none

/-- What is wrong with the length that an attribute should give. -/
def lengthFault? (attr : Attribute) : Option String :=
  if attr.mentions "db" then
    attr.args.head?.bind fun arg =>
      match arg.length? with
      | some _ => none
      | none => some ("@" ++ attr.dottedName ++ " argument is not a length; ignored")
  else none

/-- The default that an attribute gives to a field of the given innermost type. -/
def default? (innermost : String) (attr : Attribute) : Option String :=
  if attr.mentions "default" then
    (attr.args.head?.bind Argument.positionalWord?).map (defaultText · innermost)
  else none

/-- The indices that an attribute adds for a field of the entity named `owner`. -/
def keyIndices (owner field : String) (attr : Attribute) : List Index :=
  if attr.mentions "unique" then [.ofUniqueField owner field] else []

/-- What is reported about an attribute of a field of the entity named `owner`. -/
def remarks (owner field : String) (attr : Attribute) : List Diagnostic :=
  attr.lengthFault?.toList.map (.ofField owner field .invalidLength) ++
    if attr.mentions "relation" then
      attr.relationFaults.map (.ofField owner field .unknownRelationArgument)
    else []

end Schema.Attribute

/-- The facts with all that some more attributes say: a marker stays set, the last usable value
stands, and relation attributes add to one clause. -/
def FieldFacts.withAttributes (innermost : String) (facts : FieldFacts)
    (attrs : List Attribute) : FieldFacts where
  primary := facts.primary || attrs.any (·.mentions "id")
  unique := facts.unique || attrs.any (·.mentions "unique")
  dbType := (attrs.filterMap Attribute.storage?).getLast?.or facts.dbType
  length := (attrs.filterMap Attribute.length?).getLast?.or facts.length
  default := (attrs.filterMap (Attribute.default? innermost)).getLast?.or facts.default
  relation :=
    (attrs.filter (·.mentions "relation")).foldl
      (fun clause attr => some ((clause.getD {}).withAttribute attr)) facts.relation

namespace FieldFacts

variable (innermost : String) (facts : FieldFacts)

@[simp] theorem withAttributes_nil : facts.withAttributes innermost [] = facts := by
  simp [withAttributes]

theorem withAttributes_singleton (attr : Attribute) :
    facts.withAttributes innermost [attr] =
      { primary := facts.primary || attr.mentions "id"
        unique := facts.unique || attr.mentions "unique"
        dbType := attr.storage?.or facts.dbType
        length := attr.length?.or facts.length
        default := (attr.default? innermost).or facts.default
        relation :=
          if attr.mentions "relation" then
            some ((facts.relation.getD {}).withAttribute attr)
          else facts.relation } := by
  unfold withAttributes
  congr 1
  · simp
  · simp
  · cases given : attr.storage? <;> simp [given]
  · cases given : attr.length? <;> simp [given]
  · cases given : attr.default? innermost <;> simp [given]
  · cases stated : attr.mentions "relation" <;> simp [stated]

theorem withAttributes_append (first second : List Attribute) :
    (facts.withAttributes innermost first).withAttributes innermost second =
      facts.withAttributes innermost (first ++ second) := by
  simp [withAttributes, Bool.or_assoc, List.foldl_append, Option.or_assoc]

end FieldFacts

namespace FieldReading

variable (field : Field) (attr : Attribute) (reading : FieldReading)

theorem markPrimary_eq :
    reading.markPrimary attr =
      { reading with
        facts :=
          { reading.facts with primary := reading.facts.primary || attr.mentions "id" } } := by
  unfold markPrimary
  cases attr.mentions "id" <;> simp

theorem markUnique_eq :
    reading.markUnique field attr =
      { draft :=
          reading.draft.extend
            { indices := attr.keyIndices reading.draft.entity.name field.name }
        facts :=
          { reading.facts with unique := reading.facts.unique || attr.mentions "unique" } } := by
  unfold markUnique Attribute.keyIndices
  cases attr.mentions "unique" <;> simp [Draft.insertIndex_eq]

theorem setStorage_eq :
    reading.setStorage attr =
      { reading with
        facts :=
          { reading.facts with
            dbType := (attr.path[1]?.map nativeStorageName).or reading.facts.dbType } } := by
  unfold setStorage
  cases attr.path[1]? <;> rfl

theorem applyStorage_eq :
    reading.applyStorage field attr =
      { draft :=
          reading.draft.extend
            { diagnostics :=
                attr.lengthFault?.toList.map
                  (.ofField reading.draft.entity.name field.name .invalidLength) }
        facts :=
          { reading.facts with
            dbType := attr.storage?.or reading.facts.dbType
            length := attr.length?.or reading.facts.length } } := by
  unfold applyStorage Attribute.storage? Attribute.length? Attribute.lengthFault?
  cases attr.mentions "db" with
  | false => simp
  | true =>
      rw [if_pos rfl, setStorage_eq]
      unfold setLength
      cases attr.args.head? with
      | none => simp
      | some arg =>
          cases given : arg.length? <;>
            simp [given, Draft.reportField_eq, Diagnostic.ofField]

theorem applyDefault_eq :
    reading.applyDefault field attr =
      { reading with
        facts :=
          { reading.facts with
            default := (attr.default? field.type.innermost).or reading.facts.default } } := by
  unfold applyDefault Attribute.default?
  cases attr.mentions "default" with
  | false => simp
  | true => cases attr.args.head?.bind Argument.positionalWord? <;> simp

theorem applyRelation_eq :
    reading.applyRelation field attr =
      { draft :=
          reading.draft.extend
            { diagnostics :=
                if attr.mentions "relation" then
                  attr.relationFaults.map
                    (.ofField reading.draft.entity.name field.name .unknownRelationArgument)
                else [] }
        facts :=
          { reading.facts with
            relation :=
              if attr.mentions "relation" then
                some ((reading.facts.relation.getD {}).withAttribute attr)
              else reading.facts.relation } } := by
  unfold applyRelation
  cases attr.mentions "relation" with
  | false => simp
  | true => simp [Draft.readRelation_eq]

theorem apply_eq :
    reading.apply field attr =
      { draft :=
          reading.draft.extend
            { indices := attr.keyIndices reading.draft.entity.name field.name
              diagnostics := attr.remarks reading.draft.entity.name field.name }
        facts := reading.facts.withAttributes field.type.innermost [attr] } := by
  unfold apply
  rw [applyRelation_eq, applyDefault_eq, applyStorage_eq, markUnique_eq, markPrimary_eq,
    FieldFacts.withAttributes_singleton]
  simp [Draft.extend_extend, Attribute.remarks]

theorem foldl_apply (attrs : List Attribute) :
    attrs.foldl (apply field) reading =
      { draft :=
          reading.draft.extend
            { indices :=
                attrs.flatMap (Attribute.keyIndices reading.draft.entity.name field.name)
              diagnostics :=
                attrs.flatMap (Attribute.remarks reading.draft.entity.name field.name) }
        facts := reading.facts.withAttributes field.type.innermost attrs } := by
  induction attrs generalizing reading with
  | nil => simp
  | cons attr rest ih =>
      rw [List.foldl_cons, ih, apply_eq]
      simp [Draft.extend_extend, FieldFacts.withAttributes_append]

end FieldReading

/-! ### All attributes of a field -/

namespace Schema.Field

/-- What the attributes of a field say. -/
def facts (field : Field) : FieldFacts :=
  ({} : FieldFacts).withAttributes field.type.innermost field.attributes

/-- What the attributes of a field of the entity named `owner` add to it. -/
def annotations (owner : String) (field : Field) : Contribution where
  indices := field.attributes.flatMap (Attribute.keyIndices owner field.name)
  diagnostics := field.attributes.flatMap (Attribute.remarks owner field.name)

end Schema.Field

/-- Reading the attributes of a field gives its facts and adds its annotations, whatever the draft
holds. -/
theorem Draft.readAttributes_eq (draft : Draft) (field : Field) :
    draft.readAttributes field =
      { draft := draft.extend (field.annotations draft.entity.name)
        facts := field.facts } := by
  unfold readAttributes
  rw [FieldReading.foldl_apply]
  rfl

end EntityMapping
