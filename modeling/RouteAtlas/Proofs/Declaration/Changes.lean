import Mathlib.Data.List.Pairwise
import RouteAtlas.Declaration.Reader
import RouteAtlas.Proofs.Json.Record
import RouteAtlas.Proofs.Json.Writing

/-! # Changes that a snapshot does not show

The text of a snapshot may be changed in every record of it: members may be put in another order, a
field that holds its default may be left out, and members that no field is named for may be added.
It is still read as the same snapshot.
-/

namespace RouteAtlas

open Json (Doc DecodeError Spells)
open Json.Decode (FieldReader)

/-- The records that a snapshot is made of. -/
inductive RecordKind where
  | snapshot
  | declaration
  | type
  | marks
  | route
  | hook
  | property
  | wire
  | param

/-- The values of a record. -/
def RecordKind.Carrier : RecordKind → Type
  | .snapshot => Snapshot
  | .declaration => Declaration
  | .type => TypeRef
  | .marks => ClassMarks
  | .route => RouteMark
  | .hook => HookMark
  | .property => Property
  | .wire => WireMark
  | .param => ParamMark

/-- What a field holds. -/
inductive Holding where
  | text
  | bool
  | int32
  | visibility
  | record (kind : RecordKind)
  | optional (kind : RecordKind)
  | list (kind : RecordKind)

def Holding.Carrier : Holding → Type
  | .text => String
  | .bool => Bool
  | .int32 => Int
  | .visibility => Visibility
  | .record kind => kind.Carrier
  | .optional kind => Option kind.Carrier
  | .list kind => List kind.Carrier

/-- A field of a record with values in `α`. -/
structure FieldFormat (α : Type) where
  name : String
  holds : Holding
  /-- What the field holds where it is left out; none if it may not be. -/
  default : Option Json.Value
  put : α → holds.Carrier → α

/-- The fields of a record, in the order in which they are written. -/
def RecordKind.fields : (kind : RecordKind) → List (FieldFormat kind.Carrier)
  | .snapshot =>
    [⟨"declarations", .list .declaration, some (.array []), fun (s : Snapshot) declarations =>
      { s with declarations }⟩]
  | .declaration =>
    [⟨"qualified_name", .text, none, fun (d : Declaration) qualifiedName =>
        { d with qualifiedName }⟩,
      ⟨"visibility", .visibility, some (.text "public"), fun (d : Declaration) visibility =>
        { d with visibility }⟩,
      ⟨"supertypes", .list .type, some (.array []), fun (d : Declaration) supertypes =>
        { d with supertypes }⟩,
      ⟨"properties", .list .property, some (.array []), fun (d : Declaration) properties =>
        { d with properties }⟩,
      ⟨"annotations", .record .marks, some (.object []), fun (d : Declaration) marks =>
        { d with marks }⟩,
      ⟨"resolved", .bool, some (.bool true), fun (d : Declaration) resolved => { d with resolved }⟩]
  | .type =>
    [⟨"name", .text, none, fun (t : TypeRef) name => { t with name }⟩,
      ⟨"arguments", .list .type, some (.array []), fun (t : TypeRef) arguments =>
        { t with arguments }⟩,
      ⟨"nullable", .bool, some (.bool false), fun (t : TypeRef) nullable => { t with nullable }⟩]
  | .marks =>
    [⟨"route", .optional .route, some .null, fun (m : ClassMarks) route => { m with route }⟩,
      ⟨"interceptor", .optional .hook, some .null, fun (m : ClassMarks) hook => { m with hook }⟩]
  | .route =>
    [⟨"path", .text, none, fun (m : RouteMark) path => { m with path }⟩,
      ⟨"group", .text, some (.text ""), fun (m : RouteMark) group => { m with group }⟩,
      ⟨"name", .text, some (.text ""), fun (m : RouteMark) name => { m with name }⟩,
      ⟨"extras", .int32, some (.integer (-2147483648)), fun (m : RouteMark) extras =>
        { m with extras }⟩,
      ⟨"priority", .int32, some (.integer (-1)), fun (m : RouteMark) priority =>
        { m with priority }⟩]
  | .hook =>
    [⟨"priority", .int32, none, fun (m : HookMark) priority => { m with priority }⟩,
      ⟨"name", .text, some (.text ""), fun (m : HookMark) name => { m with name }⟩]
  | .property =>
    [⟨"name", .text, none, fun (p : Property) name => { p with name }⟩,
      ⟨"visibility", .visibility, some (.text "public"), fun (p : Property) visibility =>
        { p with visibility }⟩,
      ⟨"type", .record .type, none, fun (p : Property) type => { p with type }⟩,
      ⟨"autowired", .optional .wire, some .null, fun (p : Property) wire => { p with wire }⟩,
      ⟨"param", .optional .param, some .null, fun (p : Property) param => { p with param }⟩]
  | .wire =>
    [⟨"name", .text, some (.text ""), fun (m : WireMark) name => { m with name }⟩,
      ⟨"required", .bool, some (.bool false), fun (m : WireMark) required => { m with required }⟩,
      ⟨"desc", .text, some (.text ""), fun (m : WireMark) description => { m with description }⟩]
  | .param =>
    [⟨"name", .text, some (.text ""), fun (m : ParamMark) name => { m with name }⟩,
      ⟨"desc", .text, some (.text ""), fun (m : ParamMark) description => { m with description }⟩]

/-- One change to what a field holds, in a record at any depth. -/
inductive Change : Holding → Doc → Doc → Prop
  | permute {kind : RecordKind} {entries others : List (Option String × Doc)}
      (perm : entries.Perm others) :
      Change (.record kind) (.object entries true) (.object others true)
  | leaveOut {kind : RecordKind} {field : FieldFormat kind.Carrier} {default : Json.Value}
      {before after : List (Option String × Doc)} (member : field ∈ kind.fields)
      (spare : field.default = some default) :
      Change (.record kind) (.object (before ++ (some field.name, default.doc) :: after) true)
        (.object (before ++ after) true)
  | add {kind : RecordKind} {name : String} {doc : Doc} {cs : List Char}
      {before after : List (Option String × Doc)}
      (unknown : ∀ field ∈ kind.fields, field.name ≠ name) (valid : Spells (.value doc) cs) :
      Change (.record kind) (.object (before ++ after) true)
        (.object (before ++ (some name, doc) :: after) true)
  | inside {kind : RecordKind} {field : FieldFormat kind.Carrier} {doc other : Doc}
      {before after : List (Option String × Doc)} (member : field ∈ kind.fields)
      (change : Change field.holds doc other) :
      Change (.record kind) (.object (before ++ (some field.name, doc) :: after) true)
        (.object (before ++ (some field.name, other) :: after) true)
  | optional {kind : RecordKind} {doc other : Doc} (change : Change (.record kind) doc other) :
      Change (.optional kind) doc other
  | item {kind : RecordKind} {doc other : Doc} {before after : List Doc}
      (change : Change (.record kind) doc other) :
      Change (.list kind) (.array (before ++ doc :: after) true)
        (.array (before ++ other :: after) true)

section Readers

open Declaration

/-- Name of a record in messages. -/
def RecordKind.label : RecordKind → String
  | .snapshot => "SymbolSnapshot"
  | .declaration => "ClassDecl"
  | .type => "TypeRef"
  | .marks => "ClassAnnotations"
  | .route => "RouteAnnotation"
  | .hook => "InterceptorAnnotation"
  | .property => "PropertyDecl"
  | .wire => "AutowiredAnnotation"
  | .param => "ParamAnnotation"

/-- The record that the fields are read into. -/
def RecordKind.initial : (kind : RecordKind) → kind.Carrier
  | .snapshot => ({} : Snapshot)
  | .declaration => ({ qualifiedName := "" } : Declaration)
  | .type => TypeRef.named ""
  | .marks => ({} : ClassMarks)
  | .route => ({ path := "" } : RouteMark)
  | .hook => ({ priority := 0 } : HookMark)
  | .property => ({ name := "", type := .named "" } : Property)
  | .wire => ({} : WireMark)
  | .param => ({} : ParamMark)

/-- The reader of a record, where `depth` more containers may be entered. -/
def RecordKind.read : (kind : RecordKind) → Nat → Doc → Except DecodeError kind.Carrier
  | .snapshot => Reader.snapshot
  | .declaration => Reader.declaration
  | .type => Reader.typeRef
  | .marks => Reader.classMarks
  | .route => Reader.routeMark
  | .hook => Reader.hookMark
  | .property => Reader.property
  | .wire => Reader.wireMark
  | .param => Reader.paramMark

/-- The reader of what a field holds, where `depth` more containers may be entered from around the
    record of the field. -/
def Holding.read : (holding : Holding) → Nat → Doc → Except DecodeError holding.Carrier
  | .text, _ => Json.Decode.text
  | .bool, _ => Json.Decode.bool
  | .int32, _ => Json.Decode.int32
  | .visibility, depth => Json.Decode.word (depth - 1) Visibility.names
  | .record kind, depth => kind.read (depth - 1)
  | .optional kind, depth => Json.Decode.optional (kind.read (depth - 1))
  | .list kind, depth => Json.Decode.list (depth - 1) (kind.read (depth - 2))

def FieldFormat.reader {α : Type} (depth : Nat) (field : FieldFormat α) : FieldReader α :=
  Reader.field field.name field.default.isNone (field.holds.read depth) field.put

theorem typeRef_eq (depth : Nat) : Reader.typeRef depth =
    Json.Decode.record "TypeRef" (Reader.typeFields
      (Json.Decode.list (depth - 1) (Reader.typeRef (depth - 2)))) (.named "") depth := by
  match depth with
  | 0 =>
      funext doc
      cases doc <;> rfl
  | 1 =>
      have none : Json.Decode.list 0 (fun _ => .error .malformed) =
          Json.Decode.list 0 (Reader.typeRef 0) := by
        funext doc
        cases doc <;> rfl
      exact congrArg (fun arguments =>
        Json.Decode.record "TypeRef" (Reader.typeFields arguments) (.named "") 1) none
  | depth + 2 => rfl

/-- Each record is read by its fields. -/
theorem RecordKind.read_eq (kind : RecordKind) (depth : Nat) : kind.read depth =
    Json.Decode.record kind.label (kind.fields.map (FieldFormat.reader depth)) kind.initial
      depth := by
  cases kind with
  | type => exact typeRef_eq depth
  | _ => rfl

/-- Fields that are put one after the other can be put the other way round. -/
def FieldFormat.Free {α : Type} (first second : FieldFormat α) : Prop :=
  ∀ start a b, second.put (first.put start a) b = first.put (second.put start b) a

instance {α : Type} : Std.Symm (@FieldFormat.Free α) :=
  ⟨fun _ _ free start a b => (free start b a).symm⟩

theorem RecordKind.names_nodup (kind : RecordKind) :
    (kind.fields.map FieldFormat.name).Nodup := by
  cases kind <;> decide

theorem RecordKind.free (kind : RecordKind) : kind.fields.Pairwise FieldFormat.Free := by
  cases kind <;> simp only [fields, List.pairwise_cons, List.forall_mem_cons, List.not_mem_nil,
    false_implies, implies_true, List.Pairwise.nil, and_true] <;> repeat' apply And.intro
  all_goals exact fun _ _ _ => rfl

theorem FieldFormat.commute_reader {α : Type} {first second : FieldFormat α}
    (free : first.Free second) (depth : Nat) :
    Json.Decode.Commute (first.reader depth) (second.reader depth) := by
  intro doc other a b c read otherRead
  obtain ⟨x, value, rfl⟩ := map_eq_ok_iff.mp read
  obtain ⟨y, otherValue, rfl⟩ := map_eq_ok_iff.mp otherRead
  refine ⟨second.put a y, map_eq_ok_iff.mpr ⟨y, otherValue, rfl⟩, ?_⟩
  exact map_eq_ok_iff.mpr ⟨x, value, (free a x y).symm⟩

theorem RecordKind.apart (kind : RecordKind) (depth : Nat) :
    Json.Decode.Apart (kind.fields.map (FieldFormat.reader depth)) where
  names := by
    rw [List.map_map]
    exact kind.names_nodup
  commute := by
    intro first firstIn second secondIn differ
    obtain ⟨field, member, rfl⟩ := List.mem_map.mp firstIn
    obtain ⟨other, otherIn, rfl⟩ := List.mem_map.mp secondIn
    have free := kind.free.forall member otherIn fun same => differ (same ▸ rfl)
    exact FieldFormat.commute_reader free depth

theorem RecordKind.read_object_iff {kind : RecordKind} {depth : Nat}
    {entries : List (Option String × Doc)} {value : kind.Carrier} :
    kind.read depth (.object entries true) = .ok value ↔
      depth ≠ 0 ∧ Json.Decode.Fills (kind.fields.map (FieldFormat.reader depth)) kind.initial
        entries value := by
  rw [RecordKind.read_eq, Json.Decode.record_object_iff]
  simp

/-- Only a record that is there can change. -/
theorem Change.ne_null {kind : RecordKind} {doc other : Doc}
    (change : Change (.record kind) doc other) : doc ≠ .null ∧ other ≠ .null := by
  cases change <;> exact ⟨nofun, nofun⟩

theorem optional_eq {α : Type} {read : Doc → Except DecodeError α} {doc : Doc}
    (some : doc ≠ .null) : Json.Decode.optional read doc = (read doc).map .some := by
  cases doc with
  | null => exact absurd rfl some
  | _ => rfl

theorem forall₂_replace {α β : Type} {R : α → β → Prop} {old new : α} {before after : List α}
    {results : List β} (same : ∀ result, R old result → R new result)
    (related : List.Forall₂ R (before ++ old :: after) results) :
    List.Forall₂ R (before ++ new :: after) results := by
  induction before generalizing results with
  | nil =>
      cases related with
      | cons here rest => exact .cons (same _ here) rest
  | cons first before ih =>
      cases related with
      | cons here rest => exact .cons here (ih rest)

theorem list_array_iff {α : Type} {depth : Nat} {read : Doc → Except DecodeError α}
    {docs : List Doc} {closed : Bool} {values : List α} :
    Json.Decode.list depth read (.array docs closed) = .ok values ↔
      depth ≠ 0 ∧ closed = true ∧
        List.Forall₂ (fun doc value => read doc = .ok value) docs values := by
  rw [Json.Decode.list]
  split
  · simp_all
  · rename_i deep
    rw [← mapM_eq_ok_iff, bind_eq_ok_iff]
    cases closed <;> simp [deep]

/-- Reading a default leaves the record as it is. -/
def FieldFormat.Settled {α : Type} (initial : α) (field : FieldFormat α) : Prop :=
  ∀ default, field.default = some default → ∀ depth held,
    field.holds.read depth default.doc = .ok held → field.put initial held = initial

/-- A default that is read as one value only, which the record starts from. -/
theorem FieldFormat.settled_of_read {α : Type} {initial : α} {field : FieldFormat α}
    {default : Json.Value} (spare : field.default = some default) (value : field.holds.Carrier)
    (only : ∀ depth held, field.holds.read depth default.doc = .ok held → held = value)
    (same : field.put initial value = initial) : field.Settled initial := by
  intro other again depth held read
  rw [spare, Option.some.injEq] at again
  subst again
  rw [only depth held read, same]

theorem settled_of_needed {α : Type} {initial : α} {field : FieldFormat α}
    (needed : field.default = none) : field.Settled initial := by
  intro default spare
  rw [needed] at spare
  cases spare

theorem read_nothing {α : Type} {depth : Nat} {read : Doc → Except DecodeError α} {held : List α}
    (found : Json.Decode.list depth read (.array [] true) = .ok held) : held = [] := by
  cases (list_array_iff.mp found).2.2
  rfl

theorem read_default_int {value held : Int} (fits : Json.Decode.isInt32 value = true)
    (read : Json.Decode.int32 (.number (.ofInt value)) = .ok held) : held = value := by
  rw [Json.Value.int32_ofInt fits] at read
  exact (Except.ok.inj read).symm

theorem read_empty {kind : RecordKind} {depth : Nat} {held : kind.Carrier}
    (read : kind.read depth (.object [] true) = .ok held) : held = kind.initial :=
  (Except.ok.inj (RecordKind.read_object_iff.mp read).2.taken).symm

theorem read_public {depth : Nat} {held : Visibility}
    (read : Json.Decode.word depth Visibility.names (.text "public") = .ok held) :
    held = .publicScope :=
  (Except.ok.inj read).symm

theorem RecordKind.settled (kind : RecordKind) :
    ∀ field ∈ kind.fields, field.Settled kind.initial := by
  cases kind <;> simp only [fields, List.forall_mem_cons, List.not_mem_nil, false_implies,
    implies_true, and_true] <;> repeat' apply And.intro
  all_goals first
    | exact settled_of_needed rfl
    | exact FieldFormat.settled_of_read rfl ([] : List _) (fun _ _ => read_nothing) rfl
    | exact FieldFormat.settled_of_read rfl none (fun _ _ read => (Except.ok.inj read).symm) rfl
    | exact FieldFormat.settled_of_read rfl "" (fun _ _ read => (Except.ok.inj read).symm) rfl
    | exact FieldFormat.settled_of_read rfl true (fun _ _ read => (Except.ok.inj read).symm) rfl
    | exact FieldFormat.settled_of_read rfl false (fun _ _ read => (Except.ok.inj read).symm) rfl
    | exact FieldFormat.settled_of_read rfl (-1 : Int)
        (fun _ _ read => @read_default_int (-1) _ rfl read) rfl
    | exact FieldFormat.settled_of_read rfl (-2147483648 : Int)
        (fun _ _ read => @read_default_int (-2147483648) _ rfl read) rfl
    | exact FieldFormat.settled_of_read rfl ({} : ClassMarks)
        (fun depth held => @read_empty .marks (depth - 1) held) rfl
    | exact FieldFormat.settled_of_read rfl Visibility.publicScope
        (fun depth held => @read_public (depth - 1) held) rfl

/-- What a field is read as does not change. -/
theorem Change.read {holding : Holding} {doc other : Doc} (change : Change holding doc other) :
    ∀ depth value, holding.read depth doc = .ok value → holding.read depth other = .ok value := by
  induction change with
  | @permute kind entries others perm =>
      intro depth value read
      obtain ⟨deep, fills⟩ := RecordKind.read_object_iff.mp read
      exact RecordKind.read_object_iff.mpr ⟨deep, fills.perm (kind.apart _) perm⟩
  | @leaveOut kind field default before after member spare =>
      intro depth value read
      obtain ⟨deep, fills⟩ := RecordKind.read_object_iff.mp read
      have listed := List.mem_map_of_mem (f := FieldFormat.reader (depth - 1)) member
      have optional : (field.reader (depth - 1)).required = false := by
        simp [FieldFormat.reader, Declaration.Reader.field, spare]
      refine RecordKind.read_object_iff.mpr ⟨deep, fills.leaveOut (kind.apart _) listed optional ?_⟩
      intro next made
      obtain ⟨held, heldRead, rfl⟩ := map_eq_ok_iff.mp made
      exact kind.settled field member default spare _ held heldRead
  | @add kind name doc cs before after unknown valid =>
      intro depth value read
      obtain ⟨deep, fills⟩ := RecordKind.read_object_iff.mp read
      have whole := Json.Doc.isWhole_of_spells valid
      refine RecordKind.read_object_iff.mpr ⟨deep, fills.add (kind.apart _) ?_ whole⟩
      intro reader listed
      obtain ⟨field, member, rfl⟩ := List.mem_map.mp listed
      exact unknown field member
  | @inside kind field doc other before after member _ ih =>
      intro depth value read
      obtain ⟨deep, fills⟩ := RecordKind.read_object_iff.mp read
      have listed := List.mem_map_of_mem (f := FieldFormat.reader (depth - 1)) member
      refine RecordKind.read_object_iff.mpr ⟨deep, fills.inside (kind.apart _) listed ?_⟩
      intro start next made
      obtain ⟨held, heldRead, rfl⟩ := map_eq_ok_iff.mp made
      exact map_eq_ok_iff.mpr ⟨held, ih _ _ heldRead, rfl⟩
  | @optional kind doc other change ih =>
      intro depth value read
      obtain ⟨old, new⟩ := change.ne_null
      have readSome := (optional_eq old).symm.trans read
      obtain ⟨held, heldRead, rfl⟩ := map_eq_ok_iff.mp readSome
      exact (optional_eq new).trans (map_eq_ok_iff.mpr ⟨held, ih depth held heldRead, rfl⟩)
  | @item kind doc other before after change ih =>
      intro depth value read
      obtain ⟨deep, shut, values⟩ := list_array_iff.mp read
      exact list_array_iff.mpr ⟨deep, shut, forall₂_replace (ih (depth - 1)) values⟩

end Readers

end RouteAtlas
