/-
Module: EntityMapping.Proofs.SchemaReading
Purpose: Every way of writing a schema is read back as that schema. The types, attributes, fields,
  members and declarations follow the written form; the room for containers inside each other goes
  down with them.
Main exports: FieldType.Written.ofValue, Attribute.Given.ofMembers, Field.Given.ofMembers,
  Member.Written.ofValue, EnumItem.Written.ofValue, Declaration.Written.ofTree,
  Schema.ofText_of_written
-/
import EntityMapping.Proofs.ExpressionReading
import EntityMapping.Schema.Reader

namespace EntityMapping.Schema

open Decoding
open Json (Document Token Tree Value nestingLimit foldMembers_eq_map)

/-! ### Types -/

theorem TypeReading.algebra_rebuilds : algebra.Rebuilds TypeReading.value where
  scalar _ := rfl
  array _ := rfl
  object _ := rfl

theorem FieldType.Written.ofValue_of_node {name : String} {tag : TypeTag} {fields : List String}
    {given parts : List (String × Value)} (node : Node name fields given parts)
    (untagged : tagKey ∉ given.map Prod.fst) (named : typeTags.ofName name = .ok tag) :
    ∃ others, FieldType.ofValue (.object parts) =
        FieldType.ofBody
          (.members (others.map fun (name, part) => (name, part.fold TypeReading.algebra))) tag ∧
      Arranged fields given others := by
  obtain ⟨others, tagged, arranged⟩ := Tags.ofMembers_map_of_arranged TypeReading.value
    (Value.fold TypeReading.algebra) node untagged
    (Value.fold_rebuilds TypeReading.algebra_rebuilds _) named
  refine ⟨others, ?_, arranged⟩
  rw [FieldType.ofValue, Value.fold, foldMembers_eq_map]
  simp only [TypeReading.algebra] at tagged ⊢
  rw [tagged]
  rfl

/-- Every way of writing a type is read as that type. -/
theorem FieldType.Written.ofValue {type : FieldType} {value : Value}
    (written : type.Written value) : FieldType.ofValue value = .ok type := by
  induction written with
  | @named name _ node =>
      obtain ⟨others, read, arranged⟩ := ofValue_of_node node (by simp [tagKey]) rfl
      rw [read, FieldType.ofBody, Record.ofBody, Record.ofMembers_map]
      exact Record.ofMembers_of_single rfl arranged rfl
  | optional _ node inner =>
      obtain ⟨others, read, arranged⟩ := ofValue_of_node node (by simp [tagKey]) rfl
      rw [read, FieldType.ofBody, Record.ofBody, Record.ofMembers_map]
      exact Record.ofMembers_of_single rfl arranged inner
  | list _ node inner =>
      obtain ⟨others, read, arranged⟩ := ofValue_of_node node (by simp [tagKey]) rfl
      rw [read, FieldType.ofBody, Record.ofBody, Record.ofMembers_map]
      exact Record.ofMembers_of_single rfl arranged inner

/-! ### Attributes and fields -/

theorem Attribute.Given.untagged {attr : Attribute} {given : List (String × Value)}
    (members : attr.Given given) : tagKey ∉ given.map Prod.fst := by
  cases members with
  | intro _ member => simp [tagKey, member.not_mem]

theorem Attribute.Given.ofMembers {attr : Attribute} {given parts : List (String × Value)}
    (members : attr.Given given) (arranged : Arranged ["path", "args"] given parts) :
    attributeRecord.ofMembers parts = .ok attr := by
  cases members with
  | @intro path args values _ written member =>
      have givenList : (Operand.ofValue (.array values)).arguments = .ok args := by
        rw [Operand.arguments_array, written.arguments]
      exact member.ofMembers (r := attributeRecord) rfl (by decide) (fun _ _ _ => rfl)
        (fun _ => rfl) (list_text_strings path) givenList rfl arranged

theorem Attribute.Written.ofValue {attr : Attribute} {value : Value}
    (written : attr.Written value) : attributeRecord.ofValue value = .ok attr := by
  cases written with
  | object members arranged => exact members.ofMembers arranged

theorem fieldRecord_independent : fieldRecord.Independent := by
  refine List.pairwise_cons.mpr ⟨?_, List.pairwise_pair.mpr ?_⟩
  · intro g hg part part' put put' read read' a
    obtain ⟨name, rfl⟩ := put_of_read read
    rcases List.mem_pair.mp hg with rfl | rfl
    · obtain ⟨type, rfl⟩ := put_of_read read'
      rfl
    · obtain ⟨attributes, rfl⟩ := put_of_read read'
      rfl
  · intro part part' put put' read read' a
    obtain ⟨type, rfl⟩ := put_of_read read
    obtain ⟨attributes, rfl⟩ := put_of_read read'
    rfl

theorem Field.Given.untagged {f : Field} {given : List (String × Value)}
    (members : f.Given given) : tagKey ∉ given.map Prod.fst := by
  cases members with
  | intro _ _ member => simp [tagKey, member.not_mem]

theorem Field.Given.ofMembers {f : Field} {given parts : List (String × Value)}
    (members : f.Given given) (arranged : Arranged ["name", "type", "attributes"] given parts) :
    fieldRecord.ofMembers parts = .ok f := by
  refine Record.ofMembers_of_arranged fieldRecord_independent arranged ?_
  cases members with
  | @intro name type attributes value values _ typeWritten written member =>
      have text_name : text (.string name) = .ok name := rfl
      have givenType := typeWritten.ofValue
      cases member with
      | written =>
          have givenList : list attributeRecord.ofValue (.array values) = .ok attributes :=
            list_of_forall₂ (written.imp fun _ _ => Attribute.Written.ofValue)
          simp [Record.ofMembers, Record.readMembers, Record.field?, Record.finish, fieldRecord,
            text_name, givenType, givenList, bind, Except.bind, pure, Except.pure]
      | omitted =>
          cases written
          simp [Record.ofMembers, Record.readMembers, Record.field?, Record.finish, fieldRecord,
            text_name, givenType, bind, Except.bind, pure, Except.pure]
          rfl

/-! ### Members -/

theorem Node.ofValue {τ : Type} (tags : Tags τ) {name : String} {tag : τ} {fields : List String}
    {given parts : List (String × Value)} (node : Node name fields given parts)
    (untagged : tagKey ∉ given.map Prod.fst) (named : tags.ofName name = .ok tag) :
    ∃ others, tags.ofValue (.object parts) = .ok (tag, .members others) ∧
      Arranged fields given others := by
  obtain ⟨others, tagged, arranged⟩ :=
    Tags.ofMembers_map_of_arranged id id node untagged rfl named
  exact ⟨others, by simpa [Tags.ofValue] using tagged, arranged⟩

/-- Every way of writing a member of a model is read as that member. -/
theorem Member.Written.ofValue {m : Member} {value : Value} (written : m.Written value) :
    Member.ofValue value = .ok m := by
  cases written with
  | field members node =>
      obtain ⟨others, tagged, arranged⟩ := node.ofValue memberTags members.untagged rfl
      have given := members.ofMembers arranged
      simp [Member.ofValue, tagged, Record.ofBody, given, bind, Except.bind, pure, Except.pure]
  | modelAttribute members node =>
      obtain ⟨others, tagged, arranged⟩ := node.ofValue memberTags members.untagged rfl
      have given := members.ofMembers arranged
      simp [Member.ofValue, tagged, Record.ofBody, given, bind, Except.bind, pure, Except.pure]
  | other unknown node =>
      have named := Tags.ofName_of_not_mem memberTags rfl unknown
      obtain ⟨others, tagged, _⟩ := node.ofValue memberTags List.not_mem_nil named
      rw [Member.ofValue, tagged]
      rfl

/-- Every way of writing a member of an enumeration is read as that member. -/
theorem EnumItem.Written.ofValue {item : EnumItem} {value : Value}
    (written : item.Written value) : EnumItem.ofValue value = .ok item := by
  cases written with
  | @value name _ node =>
      obtain ⟨others, tagged, arranged⟩ := node.ofValue enumMemberTags (by simp [tagKey]) rfl
      have given : enumValueRecord.ofMembers others = .ok (.value name) :=
        Record.ofMembers_of_single rfl arranged rfl
      simp [EnumItem.ofValue, tagged, Record.ofBody, given, bind, Except.bind]
  | other unknown node =>
      have named := Tags.ofName_of_not_mem enumMemberTags rfl
        (fun known => unknown (List.mem_singleton.mp known))
      obtain ⟨others, tagged, _⟩ := node.ofValue enumMemberTags List.not_mem_nil named
      rw [EnumItem.ofValue, tagged]
      rfl

/-! ### Declarations -/

/-- Straight from the tree, every way of writing a declaration is read as that declaration, if
there is room for its depth. -/
theorem Declaration.Written.ofTree {declaration : Declaration} {value : Value} {room : Nat}
    (written : declaration.Written value) (shallow : value.depth ≤ room) :
    Declaration.ofTree room (.ofValue value) = .ok declaration := by
  cases written with
  | @model name members values _ _ written member node =>
      obtain ⟨others, tagged, arranged⟩ := Tags.ofTree_of_arranged declarationTags node
        (by simp [tagKey, member.not_mem]) rfl shallow
      have givenList : list Member.ofValue (.array values) = .ok members :=
        list_of_forall₂ (written.imp fun _ _ => Member.Written.ofValue)
      have given := member.ofMembers (r := modelRecord) rfl (by decide) (fun _ _ _ => rfl)
        (fun _ => rfl) (c := name) rfl givenList rfl arranged
      rw [Declaration.ofTree, tagged]
      simp [Record.ofBody, given, bind, Except.bind, pure, Except.pure]
  | @enumeration name members values _ _ written member node =>
      obtain ⟨others, tagged, arranged⟩ := Tags.ofTree_of_arranged declarationTags node
        (by simp [tagKey, member.not_mem]) rfl shallow
      have givenList : list EnumItem.ofValue (.array values) = .ok members :=
        list_of_forall₂ (written.imp fun _ _ => EnumItem.Written.ofValue)
      have given := member.ofMembers (r := enumerationRecord) rfl (by decide) (fun _ _ _ => rfl)
        (fun _ => rfl) (c := name) rfl givenList rfl arranged
      rw [Declaration.ofTree, tagged]
      simp [Record.ofBody, given, bind, Except.bind, pure, Except.pure]
  | unknown unknown node =>
      have named := Tags.ofName_of_not_mem declarationTags rfl unknown
      obtain ⟨others, tagged, _⟩ := Tags.ofTree_of_arranged declarationTags node
        List.not_mem_nil named shallow
      rw [Declaration.ofTree, tagged]
      rfl

theorem forall₂_ofTree {declarations : List Declaration} {values : List Value} {room : Nat}
    (written : List.Forall₂ Declaration.Written declarations values)
    (shallow : ∀ value ∈ values, value.depth ≤ room) :
    List.Forall₂ (fun declaration value =>
      Declaration.ofTree room (.ofValue value) = .ok declaration) declarations values := by
  induction written with
  | nil => exact .nil
  | cons first _ ih =>
      obtain ⟨here, others⟩ := List.forall_mem_cons.mp shallow
      exact .cons (first.ofTree here) (ih others)

/-! ### Schemas -/

/-- Straight from the tree, every way of writing a schema is read as that schema. -/
theorem Written.ofTree {schema : Schema} {value : Value} (written : schema.Written value)
    (shallow : value.depth ≤ nestingLimit) : Schema.ofTree (.ofValue value) = .ok schema := by
  cases written with
  | @object declarations values parts written arranged =>
      obtain ⟨room, limit, inside⟩ := Value.depth_object_le_iff.mp shallow
      obtain ⟨inner, rfl, each⟩ :=
        Value.depth_array_le_iff.mp (inside _ (arranged.mem List.mem_cons_self))
      have listed : listOfTree (inner + 1) Declaration.ofTree (.ofValue (.array values)) =
          .ok declarations :=
        listOfTree_of_forall₂ (forall₂_ofTree written each)
      rw [Schema.ofTree, limit, Record.ofTree_ofValue]
      exact Record.ofMembers_of_single rfl arranged listed

/-- A text that holds a written schema is read as that schema. -/
theorem ofText_of_written {schema : Schema} {value : Value} {text : String}
    (written : schema.Written value) (shallow : value.depth ≤ nestingLimit)
    (parsed : Document.ofText text = { root := .ofValue value, followed := false }) :
    Schema.ofText text = .ok schema := by
  rw [Schema.ofText, parsed, Document.decode, written.ofTree shallow]
  rfl

/-! A schema whose objects give their members last first and leave an empty list out. -/

/-- An attribute with an argument of each sort. -/
def lastFirstAttribute : Attribute where
  path := ["id"]
  args := [.named "map" (.path ["id"]), .positional (.literal (.boolean true))]

/-- A declaration of another sort, an enumeration without values, and a model with one field. -/
def lastFirstSchema : Schema where
  declarations := [
    .unknown,
    .enumeration { name := "Role", members := [] },
    .model { name := "Post", members := [.field ⟨"id", .named "Int", [lastFirstAttribute]⟩] }]

/-- The arguments of the attribute. The positional one has a name, but no expression. -/
def lastFirstArguments : List Value := [
  .object [
    ("expression", .object [("value", strings ["id"]), ("kind", .string "path")]),
    ("name", .string "map")],
  .object [("name", .string "a"), ("value", .boolean true), ("kind", .string "literal")]]

/-- The value of the field. -/
def lastFirstField : Value := .object [
  ("attributes", .array [.object [("args", .array lastFirstArguments), ("path", strings ["id"])]]),
  ("type", .object [("name", .string "Int"), ("kind", .string "typeId")]),
  ("name", .string "id"),
  ("kind", .string "field")]

/-- The value of the schema. -/
def lastFirstValue : Value := .object [
  ("version", .natural 2),
  ("declarations", .array [
    .object [("url", .string "file"), ("kind", .string "datasource")],
    .object [("name", .string "Role"), ("kind", .string "enum")],
    .object [
      ("members", .array [lastFirstField]), ("name", .string "Post"), ("kind", .string "model")]])]

/-- The text of the schema. -/
def lastFirstText : String :=
  "\x7b\"version\":2,\"declarations\":[
\x7b\"url\":\"file\",\"kind\":\"datasource\"\x7d,
\x7b\"name\":\"Role\",\"kind\":\"enum\"\x7d,
\x7b\"members\":[
\x7b\"attributes\":[\x7b\"args\":[
\x7b\"expression\":\x7b\"value\":[\"id\"],\"kind\":\"path\"\x7d,\"name\":\"map\"\x7d,
\x7b\"name\":\"a\",\"value\":true,\"kind\":\"literal\"\x7d],\"path\":[\"id\"]\x7d],
\"type\":\x7b\"name\":\"Int\",\"kind\":\"typeId\"\x7d,\"name\":\"id\",\"kind\":\"field\"\x7d],
\"name\":\"Post\",\"kind\":\"model\"\x7d]\x7d"

set_option maxRecDepth 4000 in
theorem lastFirstText_parsed :
    Document.ofText lastFirstText = { root := .ofValue lastFirstValue, followed := false } := by
  -- The characters of the text are given, since its bytes are slow to go through.
  have characters : lastFirstText.toList = _ := String.toList_ofList
  rw [Document.ofText, Token.ofText, characters]
  with_unfolding_all rfl

/-- Members that are given last first, with further ones in front. -/
theorem arranged_of_reverse {names : List String} {given parts : List (String × Value)}
    (further : List (String × Value)) (last_first : parts = (given ++ further).reverse)
    (unnamed : ∀ part ∈ further, part.1 ∉ names) : Arranged names given parts :=
  ⟨further, last_first ▸ List.reverse_perm _, unnamed⟩

theorem lastFirstAttribute_written :
    lastFirstAttribute.Written
      (.object [("args", .array lastFirstArguments), ("path", strings ["id"])]) := by
  have path : (Expr.path ["id"]).Written
      (.object [("value", strings ["id"]), ("kind", .string "path")]) :=
    .path (arranged_of_reverse [] rfl (by simp))
  have flag : (Expr.literal (.boolean true)).Written
      (.object [("name", .string "a"), ("value", .boolean true), ("kind", .string "literal")]) :=
    .literal (.boolean true) (arranged_of_reverse [("name", .string "a")] rfl (by simp [tagKey]))
  have args : ArgumentsWritten lastFirstAttribute.args lastFirstArguments :=
    .cons (.named path (arranged_of_reverse [] rfl (by simp)))
      (.cons (.positional flag (by simp)) .nil)
  exact .object (.intro args (.written _)) (arranged_of_reverse [] rfl (by simp))

theorem lastFirstField_written :
    (Member.field ⟨"id", .named "Int", [lastFirstAttribute]⟩).Written lastFirstField := by
  have type : (FieldType.named "Int").Written
      (.object [("name", .string "Int"), ("kind", .string "typeId")]) :=
    .named (arranged_of_reverse [] rfl (by simp))
  exact .field (.intro type (.cons lastFirstAttribute_written .nil) (.written _))
    (arranged_of_reverse [] rfl (by simp))

theorem lastFirstValue_written : lastFirstSchema.Written lastFirstValue := by
  have unknown : Declaration.unknown.Written
      (.object [("url", .string "file"), ("kind", .string "datasource")]) :=
    .unknown (by decide) (arranged_of_reverse [("url", .string "file")] rfl (by simp [tagKey]))
  have role : (Declaration.enumeration { name := "Role", members := [] }).Written
      (.object [("name", .string "Role"), ("kind", .string "enum")]) :=
    .enumeration .nil .omitted (arranged_of_reverse [] rfl (by simp))
  have post :
      (Declaration.model ⟨"Post", [.field ⟨"id", .named "Int", [lastFirstAttribute]⟩]⟩).Written
        (.object [("members", .array [lastFirstField]), ("name", .string "Post"),
          ("kind", .string "model")]) :=
    .model (.cons lastFirstField_written .nil) (.written _) (arranged_of_reverse [] rfl (by simp))
  exact .object (.cons unknown (.cons role (.cons post .nil)))
    (arranged_of_reverse [("version", .natural 2)] rfl (by simp))

theorem ofText_of_written_lastFirst :
    lastFirstSchema.Written lastFirstValue ∧ lastFirstValue.depth ≤ nestingLimit ∧
      Document.ofText lastFirstText = { root := .ofValue lastFirstValue, followed := false } ∧
      Schema.ofText lastFirstText = .ok lastFirstSchema :=
  have shallow : lastFirstValue.depth ≤ nestingLimit := by decide
  ⟨lastFirstValue_written, shallow, lastFirstText_parsed,
    ofText_of_written lastFirstValue_written shallow lastFirstText_parsed⟩

end EntityMapping.Schema
