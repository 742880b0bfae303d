import Mathlib.Logic.Relation
import RouteAtlas.Proofs.Declaration.Written

/-! # Snapshots to text and back

A snapshot is read back from its text, also after changes that it does not show. What was read from
some text has 32-bit integers and nests no deeper than what is read, so it can be written and read
again.
-/

namespace RouteAtlas

open Json (Doc DecodeError Value)
open Declaration

section Read

variable {depth : Nat} {doc : Doc}

/-- Reading a field leaves a property of the record alone. -/
def FieldFormat.Keeps {α : Type} (P : α → Prop) (depth : Nat) (field : FieldFormat α) : Prop :=
  ∀ sofar doc held, P sofar → field.holds.read depth doc = .ok held → P (field.put sofar held)

theorem RecordKind.invariant (kind : RecordKind) {P : kind.Carrier → Prop} {value : kind.Carrier}
    (start : P kind.initial) (keeps : kind.fields.Forall (FieldFormat.Keeps P depth))
    (read : kind.read depth doc = .ok value) : depth ≠ 0 ∧ P value := by
  rw [RecordKind.read_eq] at read
  refine Json.Decode.invariant_of_record ?_ start read
  intro reader listed doc sofar next holds made
  obtain ⟨field, member, rfl⟩ := List.mem_map.mp listed
  obtain ⟨held, heldRead, rfl⟩ := map_eq_ok_iff.mp made
  exact List.forall_iff_forall_mem.mp keeps field member sofar doc held holds heldRead

theorem isInt32_of_int32 {value : Int} (read : Json.Decode.int32 doc = .ok value) :
    Json.Decode.isInt32 value = true := by
  unfold Json.Decode.int32 at read
  split at read
  · split at read
    · split at read
      · cases read
        assumption
      · cases read
    · cases read
  · cases read

theorem exists_of_optional {α : Type} {read : Doc → Except DecodeError α} {held : Option α}
    (found : Json.Decode.optional read doc = .ok held) :
    ∀ value ∈ held, ∃ doc, read doc = .ok value := by
  intro value member
  unfold Json.Decode.optional at found
  split at found
  · cases found
    cases member
  · obtain ⟨inner, innerRead, rfl⟩ := map_eq_ok_iff.mp found
    cases member
    exact ⟨_, innerRead⟩

theorem exists_of_list {α : Type} {read : Doc → Except DecodeError α} {held : List α}
    (found : Json.Decode.list depth read doc = .ok held) :
    ∀ value ∈ held, depth ≠ 0 ∧ ∃ item, read item = .ok value := by
  cases doc with
  | array items closed =>
      obtain ⟨deep, -, values⟩ := list_array_iff.mp found
      clear found
      induction values with
      | nil => nofun
      | cons first _ ih => exact List.forall_mem_cons.mpr ⟨⟨deep, _, first⟩, ih⟩
  | _ => cases found

theorem routeMark_fits {mark : RouteMark} (read : Reader.routeMark depth doc = .ok mark) :
    mark.Fits := by
  have keeps : RecordKind.route.fields.Forall (FieldFormat.Keeps RouteMark.Fits depth) := by
    refine ⟨?path, ?group, ?name, ?extras, ?priority⟩
    case extras => exact fun _ _ _ fits read => ⟨isInt32_of_int32 read, fits.2⟩
    case priority => exact fun _ _ _ fits read => ⟨fits.1, isInt32_of_int32 read⟩
    all_goals exact fun _ _ _ fits _ => fits
  exact (RecordKind.route.invariant ⟨rfl, rfl⟩ keeps read).2

theorem hookMark_fits {mark : HookMark} (read : Reader.hookMark depth doc = .ok mark) :
    mark.Fits := by
  have keeps : RecordKind.hook.fields.Forall (FieldFormat.Keeps HookMark.Fits depth) := by
    refine ⟨?priority, ?name⟩
    case priority => exact fun _ _ _ _ read => isInt32_of_int32 read
    case name => exact fun _ _ _ fits _ => fits
  have start : HookMark.Fits RecordKind.hook.initial := rfl
  exact (RecordKind.hook.invariant start keeps read).2

theorem classMarks_fits {marks : ClassMarks} (read : Reader.classMarks depth doc = .ok marks) :
    marks.Fits := by
  have keeps : RecordKind.marks.fields.Forall (FieldFormat.Keeps ClassMarks.Fits depth) := by
    refine ⟨?route, ?hook⟩
    case route =>
      intro _ _ held fits read
      refine ⟨fun mark member => ?_, fits.2⟩
      obtain ⟨inner, innerRead⟩ := exists_of_optional read mark member
      exact routeMark_fits innerRead
    case hook =>
      intro _ _ held fits read
      refine ⟨fits.1, fun mark member => ?_⟩
      obtain ⟨inner, innerRead⟩ := exists_of_optional read mark member
      exact hookMark_fits innerRead
  exact (RecordKind.marks.invariant ⟨nofun, nofun⟩ keeps read).2

/-- The arguments of a type leave room for the containers around them. -/
def TypeRef.Shallow (depth : Nat) (type : TypeRef) : Prop :=
  ∀ argument ∈ type.arguments, argument.toJson.depth + 2 ≤ depth

/-- A type that is read nests no deeper than it was allowed to. -/
theorem typeRef_depth {type : TypeRef} (read : Reader.typeRef depth doc = .ok type) :
    type.toJson.depth ≤ depth := by
  induction depth using Nat.strongRecOn generalizing doc type with
  | ind depth ih =>
      have keeps : RecordKind.type.fields.Forall
          (FieldFormat.Keeps (TypeRef.Shallow depth) depth) := by
        refine ⟨?name, ?arguments, ?nullable⟩
        case arguments =>
          intro _ _ held _ read argument member
          obtain ⟨deep, inner, innerRead⟩ := exists_of_list read argument member
          -- The list takes one level and each argument another.
          have := ih (depth - 2) (by omega) innerRead
          omega
        all_goals exact fun _ _ _ shallow _ => shallow
      obtain ⟨deep, shallow⟩ := RecordKind.type.invariant nofun keeps read
      exact TypeRef.depth_toJson_le_iff.mpr ⟨by omega, shallow⟩

/-- A property is written with two containers at least. -/
def Property.Shallow (depth : Nat) (property : Property) : Prop :=
  property.type.toJson.depth + 1 ≤ max depth 2

theorem property_depth {property : Property} (read : Reader.property depth doc = .ok property) :
    property.toJson.depth ≤ max depth 2 := by
  have keeps : RecordKind.property.fields.Forall
      (FieldFormat.Keeps (Property.Shallow depth) depth) := by
    refine ⟨?name, ?visibility, ?type, ?wire, ?param⟩
    case type =>
      intro _ _ held _ read
      have within : (TypeRef.toJson held).depth ≤ depth - 1 := typeRef_depth read
      show (TypeRef.toJson held).depth + 1 ≤ max depth 2
      omega
    all_goals exact fun _ _ _ shallow _ => shallow
  have start : Property.Shallow depth RecordKind.property.initial := Nat.le_max_right _ _
  exact Property.depth_toJson_le_iff.mpr (RecordKind.property.invariant start keeps read).2

/-- A class that was read holds types and properties which can be written in it. -/
structure Declaration.Shallow (depth : Nat) (decl : Declaration) : Prop where
  types : ∀ type ∈ decl.supertypes, type.toJson.depth + 2 ≤ max depth 4
  properties : ∀ property ∈ decl.properties, property.toJson.depth + 2 ≤ max depth 4
  fits : decl.marks.Fits

theorem declaration_shallow {decl : Declaration}
    (read : Reader.declaration depth doc = .ok decl) : decl.Shallow depth := by
  have keeps : RecordKind.declaration.fields.Forall
      (FieldFormat.Keeps (Declaration.Shallow depth) depth) := by
    refine ⟨?name, ?visibility, ?types, ?properties, ?marks, ?resolved⟩
    case types =>
      intro _ _ held shallow read
      refine ⟨fun type member => ?_, shallow.properties, shallow.fits⟩
      obtain ⟨deep, inner, innerRead⟩ := exists_of_list read type member
      have := typeRef_depth innerRead
      omega
    case properties =>
      intro _ _ held shallow read
      refine ⟨shallow.types, fun property member => ?_, shallow.fits⟩
      obtain ⟨deep, inner, innerRead⟩ := exists_of_list read property member
      have := property_depth innerRead
      omega
    case marks =>
      intro _ _ held shallow read
      exact ⟨shallow.types, shallow.properties, classMarks_fits read⟩
    all_goals exact fun _ _ _ shallow _ => ⟨shallow.types, shallow.properties, shallow.fits⟩
  exact (RecordKind.declaration.invariant ⟨nofun, nofun, nofun, nofun⟩ keeps read).2

theorem Declaration.Shallow.depth_toJson {decl : Declaration} (shallow : decl.Shallow depth) :
    decl.toJson.depth ≤ max depth 4 := by
  have marks : decl.marks.toJson.depth ≤ 2 := by
    rw [ClassMarks.depth_toJson]
    split <;> omega
  exact Declaration.depth_toJson_le_iff.mpr
    ⟨by omega, shallow.types, shallow.properties, by omega⟩

def Snapshot.Shallow (depth : Nat) (snapshot : Snapshot) : Prop :=
  ∀ decl ∈ snapshot.declarations, decl.toJson.depth + 2 ≤ max depth 6 ∧ decl.marks.Fits

theorem snapshot_shallow {snapshot : Snapshot} (read : Reader.snapshot depth doc = .ok snapshot) :
    snapshot.Shallow depth := by
  have keeps : RecordKind.snapshot.fields.Forall
      (FieldFormat.Keeps (Snapshot.Shallow depth) depth) := by
    intro _ _ held _ read decl member
    obtain ⟨deep, inner, innerRead⟩ := exists_of_list read decl member
    have shallow := declaration_shallow innerRead
    have := shallow.depth_toJson
    exact ⟨by omega, shallow.fits⟩
  exact (RecordKind.snapshot.invariant nofun keeps read).2

end Read

namespace Snapshot

variable {snapshot : Snapshot} {doc : Doc} {text : String}

theorem parse_of_spelledBy (spelled : doc.SpelledBy text) (read : ofDoc doc = .ok snapshot) :
    parse text = .ok snapshot := by
  simp [parse, Doc.read_of_spelledBy spelled, read, bind, Except.bind]

theorem exists_of_parse (read : parse text = .ok snapshot) : ∃ doc, ofDoc doc = .ok snapshot := by
  rw [parse, bind_eq_ok_iff] at read
  obtain ⟨found, docRead, rest⟩ := read
  split at rest <;> cases rest
  exact ⟨_, docRead⟩

/-- What is read can be written: it nests no deeper than it may. -/
theorem writable_of_parse (read : parse text = .ok snapshot) :
    snapshot.Fits ∧ snapshot.toJson.depth ≤ nestingLimit := by
  obtain ⟨doc, docRead⟩ := exists_of_parse read
  have shallow := snapshot_shallow docRead
  refine ⟨fun decl member => (shallow decl member).2, Snapshot.depth_toJson_le_iff.mpr ⟨?_, ?_⟩⟩
  · decide
  · exact fun decl member => (shallow decl member).1

theorem ofDoc_of_changes {other : Doc}
    (changes : Relation.ReflTransGen (Change (.record .snapshot)) doc other)
    (read : ofDoc doc = .ok snapshot) : ofDoc other = .ok snapshot := by
  induction changes with
  | refl => exact read
  | tail _ change ih => exact change.read (nestingLimit + 1) snapshot ih

/-- A snapshot is read back from the texts that are written of it, and from each text that they
    can be changed to. -/
structure RoundTrip (snapshot : Snapshot) : Prop where
  compact : parse snapshot.toJson.compact = .ok snapshot
  pretty : parse snapshot.toJson.pretty = .ok snapshot
  changed : ∀ doc, Relation.ReflTransGen (Change (.record .snapshot)) snapshot.toJson.doc doc →
    ∀ text, doc.SpelledBy text → parse text = .ok snapshot

/-- Snapshots that can be written and snapshots that were read from any text are read back. -/
theorem roundTrip_of_writable_or_parsed :
    (∀ snapshot : Snapshot, snapshot.Fits → snapshot.toJson.depth ≤ nestingLimit →
      snapshot.RoundTrip) ∧
      ∀ text snapshot, parse text = .ok snapshot → snapshot.RoundTrip := by
  have written : ∀ snapshot : Snapshot, snapshot.Fits → snapshot.toJson.depth ≤ nestingLimit →
      snapshot.RoundTrip := by
    intro snapshot fits shallow
    have read := ofDoc_toJson fits shallow
    exact {
      compact := parse_of_spelledBy (Value.spelledBy_compact _) read
      pretty := parse_of_spelledBy (Value.spelledBy_pretty _) read
      changed := fun doc changes text spelled =>
        parse_of_spelledBy spelled (ofDoc_of_changes changes read) }
  refine ⟨written, fun text snapshot read => ?_⟩
  obtain ⟨fits, shallow⟩ := writable_of_parse read
  exact written snapshot fits shallow

/-- A page whose supertype has an argument. -/
def cart : Snapshot :=
  ⟨[{ qualifiedName := "shop.Cart", supertypes := [⟨"shop.Page", [.named "shop.Item"], false⟩],
      marks := { route := some { path := "/shop/cart", priority := 2 } } }]⟩

/-- The cart beside a note, with the default extras of its route left out. -/
def notedCart : Value :=
  .object [("note", .array [.null]), ("declarations", .array [.object [
    ("qualified_name", .text "shop.Cart"), ("visibility", .text "public"),
    ("supertypes", .array [.object [("name", .text "shop.Page"),
      ("arguments", .array [.object [("name", .text "shop.Item"), ("nullable", .bool false)]]),
      ("nullable", .bool false)]]),
    ("properties", .array []),
    ("annotations", .object [("route", .object [("path", .text "/shop/cart"), ("group", .text ""),
      ("name", .text ""), ("priority", .integer 2)])]),
    ("resolved", .bool true)]])]

theorem changes_cart :
    Relation.ReflTransGen (Change (.record .snapshot)) cart.toJson.doc notedCart.doc := by
  refine .tail (.single ?extras) (@Change.add .snapshot "note" _ _ [] [_] (by decide)
    (Value.spells_write (.array [.null])))
  refine @Change.inside .snapshot _ _ _ [] [] (List.mem_of_getElem? (i := 0) rfl) ?_
  refine @Change.item .declaration _ _ [] [] ?_
  refine @Change.inside .declaration _ _ _ [_, _, _, _] [_] (List.mem_of_getElem? (i := 4) rfl) ?_
  refine @Change.inside .marks _ _ _ [] [] (List.mem_of_getElem? (i := 0) rfl) ?_
  apply Change.optional
  exact @Change.leaveOut .route _ _ [_, _, _] [_] (List.mem_of_getElem? (i := 3) rfl) rfl

theorem roundTrip_of_cart : cart.Fits ∧ cart.toJson.depth ≤ nestingLimit ∧
    parse notedCart.compact = .ok cart ∧ cart.RoundTrip := by
  have fits : cart.Fits := by
    simp [Fits, cart, ClassMarks.Fits, RouteMark.Fits, Json.Decode.isInt32]
  have shallow : cart.toJson.depth ≤ nestingLimit := by decide
  have written := roundTrip_of_writable_or_parsed.1 cart fits shallow
  have read := written.changed _ changes_cart _ (Value.spelledBy_compact notedCart)
  exact ⟨fits, shallow, read, roundTrip_of_writable_or_parsed.2 _ cart read⟩

end Snapshot

end RouteAtlas
