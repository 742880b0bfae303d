import RouteAtlas.Declaration.Writer
import RouteAtlas.Proofs.Declaration.Changes

/-! # Reading written snapshots

The document that is written of a snapshot is read as that snapshot, if its integers have 32 bits
and its containers do not nest too deep.
-/

namespace RouteAtlas

open Json (Doc DecodeError Value)
open Declaration

def RouteMark.Fits (mark : RouteMark) : Prop :=
  Json.Decode.isInt32 mark.extras = true ∧ Json.Decode.isInt32 mark.priority = true

def HookMark.Fits (mark : HookMark) : Prop :=
  Json.Decode.isInt32 mark.priority = true

/-- The integers in the annotations of a class have 32 bits. -/
def ClassMarks.Fits (marks : ClassMarks) : Prop :=
  (∀ mark ∈ marks.route, mark.Fits) ∧ ∀ mark ∈ marks.hook, mark.Fits

def Snapshot.Fits (snapshot : Snapshot) : Prop :=
  ∀ decl ∈ snapshot.declarations, decl.marks.Fits

section Depth

variable {limit : Nat}

theorem TypeRef.listToJson_eq_map (types : List TypeRef) :
    TypeRef.listToJson types = types.map TypeRef.toJson := by
  induction types with
  | nil => rfl
  | cons type rest ih => rw [TypeRef.listToJson, ih, List.map_cons]

theorem TypeRef.depth_toJson_le_iff {type : TypeRef} : type.toJson.depth ≤ limit ↔
    1 ≤ limit ∧ ∀ argument ∈ type.arguments, argument.toJson.depth + 2 ≤ limit := by
  obtain ⟨name, arguments, nullable⟩ := type
  cases arguments with
  | nil =>
      rw [TypeRef.toJson, Value.depth_object_le_iff]
      simp only [List.forall_mem_cons, Value.depth_text, Value.depth_bool, List.not_mem_nil,
        false_implies, implies_true, and_true]
      omega
  | cons first rest =>
      rw [TypeRef.toJson, Value.depth_object_le_iff]
      simp only [List.forall_mem_cons, Value.depth_text, Value.depth_bool,
        Value.depth_array_succ_le_iff, TypeRef.listToJson_eq_map, List.forall_mem_map]
      grind

theorem ClassMarks.depth_toJson (marks : ClassMarks) : marks.toJson.depth =
    if marks.route.isSome || marks.hook.isSome then 2 else 1 := by
  obtain ⟨route, hook⟩ := marks
  cases route <;> cases hook <;> rfl

theorem Property.depth_toJson_le_iff {property : Property} : property.toJson.depth ≤ limit ↔
    property.type.toJson.depth + 1 ≤ limit := by
  obtain ⟨name, visibility, type, wire, param⟩ := property
  have container : 1 ≤ type.toJson.depth := (TypeRef.depth_toJson_le_iff.mp le_rfl).1
  rw [Property.toJson, Value.depth_object_le_iff]
  cases wire <;> cases param <;>
    simp [optionalMember, WireMark.toJson, ParamMark.toJson, Value.depth, Value.membersDepth] <;>
    omega

theorem Declaration.depth_toJson_le_iff {decl : Declaration} : decl.toJson.depth ≤ limit ↔
    2 ≤ limit ∧ (∀ type ∈ decl.supertypes, type.toJson.depth + 2 ≤ limit) ∧
      (∀ property ∈ decl.properties, property.toJson.depth + 2 ≤ limit) ∧
        decl.marks.toJson.depth + 1 ≤ limit := by
  rw [Declaration.toJson, Value.depth_object_le_iff]
  simp only [List.forall_mem_cons, Value.depth_text, Value.depth_bool,
    Value.depth_array_succ_le_iff, List.forall_mem_map]
  grind

theorem Snapshot.depth_toJson_le_iff {snapshot : Snapshot} : snapshot.toJson.depth ≤ limit ↔
    2 ≤ limit ∧ ∀ decl ∈ snapshot.declarations, decl.toJson.depth + 2 ≤ limit := by
  rw [Snapshot.toJson, Value.depth_object_le_iff]
  simp only [List.forall_mem_cons, Value.depth_array_succ_le_iff, List.forall_mem_map]
  grind

end Depth

section Readers

variable {depth : Nat}

theorem list_written {α : Type} {read : Doc → Except DecodeError α} {write : α → Value}
    {values : List α} (deep : depth ≠ 0)
    (written : ∀ value ∈ values, read (write value).doc = .ok value) :
    Json.Decode.list depth read (Value.array (values.map write)).doc = .ok values := by
  rw [Value.doc, Value.itemDocs_eq_map, List.map_map, list_array_iff, List.forall₂_map_left_iff]
  exact ⟨deep, rfl, List.forall₂_same.mpr written⟩

-- The fields of a record are looked up one by one.
attribute [local simp] Json.Decode.record Json.Decode.members Reader.textField Reader.intField
  Reader.boolField Reader.field Reader.visibilityField Json.Decode.text Json.Decode.bool Value.doc
  Value.memberDocs optionalMember Except.map Except.bind bind

theorem routeMark_toJson {mark : RouteMark} (fits : mark.Fits) (deep : depth ≠ 0) :
    Reader.routeMark depth mark.toJson.doc = .ok mark := by
  have extras := Value.int32_ofInt fits.1
  have priority := Value.int32_ofInt fits.2
  simp [Reader.routeMark, RouteMark.toJson, deep, extras, priority]

theorem hookMark_toJson {mark : HookMark} (fits : mark.Fits) (deep : depth ≠ 0) :
    Reader.hookMark depth mark.toJson.doc = .ok mark := by
  have priority := Value.int32_ofInt fits
  simp [Reader.hookMark, HookMark.toJson, deep, priority]

theorem wireMark_toJson (mark : WireMark) (deep : depth ≠ 0) :
    Reader.wireMark depth mark.toJson.doc = .ok mark := by
  simp [Reader.wireMark, WireMark.toJson, deep]

theorem paramMark_toJson (mark : ParamMark) (deep : depth ≠ 0) :
    Reader.paramMark depth mark.toJson.doc = .ok mark := by
  simp [Reader.paramMark, ParamMark.toJson, deep]

theorem word_visibility (visibility : Visibility) :
    Json.Decode.word depth Visibility.names (.text visibility.name) = .ok visibility := by
  cases visibility <;> rfl

theorem optional_written {α : Type} {read : Doc → Except DecodeError α} {write : α → Value}
    {value : α} (some : (write value).doc ≠ .null) (written : read (write value).doc = .ok value) :
    Json.Decode.optional read (write value).doc = .ok (.some value) := by
  rw [optional_eq some, written, Except.map]

theorem classMarks_toJson {marks : ClassMarks} (fits : marks.Fits)
    (deep : marks.toJson.depth ≤ depth) :
    Reader.classMarks depth marks.toJson.doc = .ok marks := by
  rw [ClassMarks.depth_toJson] at deep
  have entered : depth ≠ 0 := by split at deep <;> omega
  have route : ∀ mark ∈ marks.route,
      Json.Decode.optional (Reader.routeMark (depth - 1)) mark.toJson.doc = .ok (some mark) := by
    intro mark member
    rw [Option.isSome_of_mem member, Bool.true_or, if_pos rfl] at deep
    exact optional_written nofun (routeMark_toJson (fits.1 mark member) (by omega))
  have hook : ∀ mark ∈ marks.hook,
      Json.Decode.optional (Reader.hookMark (depth - 1)) mark.toJson.doc = .ok (some mark) := by
    intro mark member
    rw [Option.isSome_of_mem member, Bool.or_true, if_pos rfl] at deep
    exact optional_written nofun (hookMark_toJson (fits.2 mark member) (by omega))
  obtain ⟨_ | _, _ | _⟩ := marks <;> simp_all [Reader.classMarks, ClassMarks.toJson]

theorem typeRef_toJson (type : TypeRef) {depth : Nat} (deep : type.toJson.depth ≤ depth) :
    Reader.typeRef depth type.toJson.doc = .ok type := by
  obtain ⟨container, inside⟩ := TypeRef.depth_toJson_le_iff.mp deep
  have entered : depth ≠ 0 := by omega
  rw [typeRef_eq]
  match type with
  | ⟨name, [], nullable⟩ =>
      simp [Reader.typeFields, TypeRef.toJson, TypeRef.named, entered]
  | ⟨name, first :: rest, nullable⟩ =>
      have written : ∀ argument ∈ first :: rest,
          Reader.typeRef (depth - 2) argument.toJson.doc = .ok argument := by
        intro argument member
        have deeper := inside argument member
        exact typeRef_toJson argument (by omega)
      have deeper := inside first List.mem_cons_self
      have arguments := list_written (show depth - 1 ≠ 0 by omega) written
      simp_all [Reader.typeFields, TypeRef.toJson, TypeRef.listToJson_eq_map]
termination_by sizeOf type
decreasing_by
  have := List.sizeOf_lt_of_mem member
  simp_all
  omega

theorem property_toJson {property : Property} (deep : property.toJson.depth ≤ depth) :
    Reader.property depth property.toJson.doc = .ok property := by
  have inside := Property.depth_toJson_le_iff.mp deep
  have container : 1 ≤ property.type.toJson.depth := (TypeRef.depth_toJson_le_iff.mp le_rfl).1
  have entered : depth ≠ 0 := by omega
  have further : depth - 1 ≠ 0 := by omega
  have type : Reader.typeRef (depth - 1) property.type.toJson.doc = .ok property.type :=
    typeRef_toJson _ (by omega)
  have wire : ∀ mark ∈ property.wire,
      Json.Decode.optional (Reader.wireMark (depth - 1)) mark.toJson.doc = .ok (some mark) :=
    fun mark _ => optional_written nofun (wireMark_toJson mark further)
  have param : ∀ mark ∈ property.param,
      Json.Decode.optional (Reader.paramMark (depth - 1)) mark.toJson.doc = .ok (some mark) :=
    fun mark _ => optional_written nofun (paramMark_toJson mark further)
  obtain ⟨_, _, _, _ | _, _ | _⟩ := property <;> simp_all [Reader.property, Property.toJson, word_visibility]

theorem declaration_toJson {decl : Declaration} (fits : decl.marks.Fits)
    (deep : decl.toJson.depth ≤ depth) :
    Reader.declaration depth decl.toJson.doc = .ok decl := by
  obtain ⟨inside, types, properties, marked⟩ := Declaration.depth_toJson_le_iff.mp deep
  have entered : depth ≠ 0 := by omega
  have further : depth - 1 ≠ 0 := by omega
  have typesRead : ∀ type ∈ decl.supertypes,
      Reader.typeRef (depth - 2) type.toJson.doc = .ok type := by
    intro type member
    have := types type member
    exact typeRef_toJson _ (by omega)
  have propertiesRead : ∀ property ∈ decl.properties,
      Reader.property (depth - 2) property.toJson.doc = .ok property := by
    intro property member
    have := properties property member
    exact property_toJson (by omega)
  have supertypes := list_written further typesRead
  have properties := list_written further propertiesRead
  have marks : Reader.classMarks (depth - 1) decl.marks.toJson.doc = .ok decl.marks :=
    classMarks_toJson fits (by omega)
  simp_all [Reader.declaration, Declaration.toJson, word_visibility]

/-- The document that is written of a snapshot is read as that snapshot. -/
theorem Snapshot.ofDoc_toJson {snapshot : Snapshot} (fits : snapshot.Fits)
    (deep : snapshot.toJson.depth ≤ Snapshot.nestingLimit) :
    Snapshot.ofDoc snapshot.toJson.doc = .ok snapshot := by
  obtain ⟨inside, declarations⟩ := Snapshot.depth_toJson_le_iff.mp deep
  have written : ∀ decl ∈ snapshot.declarations,
      Reader.declaration (Snapshot.nestingLimit - 2) decl.toJson.doc = .ok decl := by
    intro decl member
    have := declarations decl member
    exact declaration_toJson (fits decl member) (by omega)
  have read := list_written (show Snapshot.nestingLimit - 1 ≠ 0 by decide) written
  have entered : Snapshot.nestingLimit ≠ 0 := by decide
  simp_all [Snapshot.ofDoc, Reader.snapshot, Snapshot.toJson]

end Readers

end RouteAtlas
