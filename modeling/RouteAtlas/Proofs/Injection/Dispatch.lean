import RouteAtlas.Proofs.Classification.Nearest
import RouteAtlas.Proofs.Injection.Plan

/-! # What becomes of a field

The statements of a field follow from a table with one row for each case: whether the field may be
reached, how it is annotated, what its type leads to, and what its class is. The rows exclude each
other and one of them always applies.
-/

namespace RouteAtlas

/-- The annotation of a field, in its newer form or in its older one, which requires nothing. -/
inductive Property.Asks (property : Property) : WireMark → Prop where
  | wire {mark : WireMark} (marked : property.wire = some mark) : property.Asks mark
  | param {mark : ParamMark} (unmarked : property.wire = none) (older : property.param = some mark) :
    property.Asks ⟨mark.name, false, mark.description⟩

theorem Property.asks_iff {property : Property} {mark : WireMark} :
    property.Asks mark ↔ property.directive = some mark := by
  unfold directive
  constructor
  · rintro (marked | ⟨unmarked, older⟩)
    · rw [marked]
    · rw [unmarked, older]
      rfl
  · intro directed
    cases marked : property.wire with
    | some wire =>
        simp only [marked, Option.some.injEq] at directed
        exact directed ▸ .wire marked
    | none =>
        simp only [marked, Option.map_eq_some_iff] at directed
        obtain ⟨param, older, rfl⟩ := directed
        exact .param marked older

theorem lookup_eq_some_iff_mem {κ ν : Type} [DecidableEq κ] {entries : List (κ × ν)} {key : κ}
    {value : ν} (distinct : (entries.map Prod.fst).Nodup) :
    entries.lookup key = some value ↔ (key, value) ∈ entries := by
  induction entries with
  | nil => simp
  | cons entry rest ih =>
      obtain ⟨first, held⟩ := entry
      obtain ⟨fresh, others⟩ := List.nodup_cons.mp distinct
      rw [List.lookup_cons, List.mem_cons, Prod.mk.injEq]
      by_cases here : key = first
      · subst here
        have absent : (key, value) ∉ rest := fun later =>
          fresh (List.mem_map.mpr ⟨(key, value), later, rfl⟩)
        simp [absent, eq_comm]
      · simp [beq_eq_false_iff_ne.mpr here, here, ih others]

namespace ValueKind

/-- The kinds of values that are never null. -/
def scalars : List ValueKind :=
  [.byte, .short, .int, .long, .char, .float, .double, .boolean]

theorem isScalar_iff {kind : ValueKind} : kind.isScalar = true ↔ kind ∈ scalars := by
  cases kind <;> decide

theorem ofTypeName?_eq_some_iff {name : String} {kind : ValueKind} :
    ofTypeName? name = some kind ↔ (name, kind) ∈ byTypeName :=
  lookup_eq_some_iff_mem (by decide)

theorem ofTypeName?_eq_none_iff {name : String} :
    ofTypeName? name = none ↔ name ∉ byTypeName.map Prod.fst := by
  rw [Option.eq_none_iff_forall_ne_some, List.mem_map, not_exists]
  simp only [ne_eq, ofTypeName?_eq_some_iff]
  constructor
  · rintro absent ⟨_, kind⟩ ⟨member, rfl⟩
    exact absent kind member
  · exact fun absent kind member => absent (name, kind) ⟨member, rfl⟩

end ValueKind

theorem given?_eq (text : String) : given? text = if text = "" then none else some text := by
  split <;> simp_all [given?]

theorem lookupStatements_eq (owner : Declaration) (property : Property) (mark : WireMark) :
    lookupStatements owner property mark =
      .serviceLookup property.name property.type
          (if mark.name = "" then .declaredType else .path mark.name) ::
        if mark.required then [.nullCheck property.name owner.simpleName .throw] else [] := by
  unfold lookupStatements
  rw [given?_eq]
  by_cases unnamed : mark.name = "" <;> simp [unnamed]

theorem readStatements_eq (owner : Declaration) (property : Property) (mark : WireMark)
    (kind : ValueKind) (source : ParamSource) :
    readStatements owner property mark kind source =
      readStatement owner property (if mark.name = "" then property.name else mark.name) kind
          source ::
        if mark.required = true ∧ kind ∉ ValueKind.scalars then
          [.nullCheck property.name owner.simpleName .log] else [] := by
  unfold readStatements
  rw [given?_eq]
  by_cases unnamed : mark.name = "" <;> simp [unnamed, ← ValueKind.isScalar_iff]

/-- The nearest name that is a candidate decides where among them a match is. -/
theorem firstMatch_eq_bind (lineage candidates : List String) :
    firstMatch lineage candidates =
      (lineage.find? fun name => decide (name ∈ candidates)).bind fun name =>
        candidates.findIdx? (· == name) := by
  induction lineage with
  | nil => rfl
  | cons name rest ih =>
      rw [firstMatch, List.findSome?_cons, List.find?_cons]
      cases place : candidates.findIdx? (· == name) with
      | some index =>
          have member : name ∈ candidates := by
            obtain ⟨bound, same, -⟩ := List.findIdx?_eq_some_iff_getElem.mp place
            exact eq_of_beq same ▸ List.getElem_mem bound
          simp [member, place]
      | none =>
          have absent : name ∉ candidates := fun member => by
            simpa using List.findIdx?_eq_none_iff.mp place name member
          rw [decide_eq_false absent]
          exact ih

namespace SymbolTable

variable {table : SymbolTable} {owner : Declaration} {property : Property}

/-- The contract that makes a class a route of some kind: the first route contract that is met among
    its supertypes, theirs, and so on. So none is nearer. -/
structure NearestContract (table : SymbolTable) (owner : Declaration) (contract : String)
    (kind : RouteKind) : Prop where
  listed : (contract, kind) ∈ routeContracts
  first : ((table.ancestors owner).find? fun name =>
    decide (name ∈ routeContracts.map Prod.fst)) = some contract
  reached : contract ≠ owner.qualifiedName ∧ table.Reaches owner.qualifiedName contract
  nearest : ∀ other ∈ routeContracts.map Prod.fst, other ≠ owner.qualifiedName →
    table.Reaches owner.qualifiedName other →
    table.distance owner.qualifiedName contract ≤ table.distance owner.qualifiedName other

section Nearest

variable {contract : String} {ownerKind : RouteKind} {source : ParamSource}

theorem nearestContract_of_first (member : owner ∈ table.declarations)
    (listed : (contract, ownerKind) ∈ routeContracts)
    (first : ((table.ancestors owner).find? fun name =>
      decide (name ∈ routeContracts.map Prod.fst)) = some contract) :
    table.NearestContract owner contract ownerKind := by
  have walk := nearestFirst member
  refine ⟨listed, first, (walk.mem_iff _).mp (List.mem_of_find?_eq_some first), ?_⟩
  obtain ⟨-, before, after, split, free⟩ := List.find?_eq_some_iff_append.mp first
  have ordered := walk.ascending
  rw [split] at ordered
  intro other candidate different reached
  have visited := (walk.mem_iff other).mpr ⟨different, reached⟩
  rw [split] at visited
  rcases List.mem_append.mp visited with earlier | later
  · exact absurd candidate (by simpa using free other earlier)
  · rcases List.mem_cons.mp later with rfl | behind
    · exact Nat.le_refl _
    · exact List.rel_of_pairwise_cons (List.pairwise_append.mp ordered).2.1 behind

theorem NearestContract.routeKind_eq (nearest : table.NearestContract owner contract ownerKind) :
    table.routeKind owner = ownerKind := by
  have placed : ∀ entry ∈ routeContracts,
      RouteKind.ofPlace ((routeContracts.map Prod.fst).findIdx? (· == entry.1)) = entry.2 := by
    decide
  rw [routeKind, SymbolTable.firstMatch, firstMatch_eq_bind, nearest.first]
  exact placed _ nearest.listed

/-- A class that is of a known kind has the contract for it. -/
theorem exists_nearestContract (member : owner ∈ table.declarations)
    (known : table.routeKind owner ≠ .unknown) :
    ∃ contract, table.NearestContract owner contract (table.routeKind owner) := by
  cases first : (table.ancestors owner).find? fun name =>
      decide (name ∈ routeContracts.map Prod.fst) with
  | none =>
      rw [routeKind, SymbolTable.firstMatch, firstMatch_eq_bind, first] at known
      exact absurd rfl known
  | some contract =>
      have candidate := List.find?_some first
      rw [decide_eq_true_eq, List.mem_map] at candidate
      obtain ⟨⟨_, kind⟩, listed, rfl⟩ := candidate
      have nearest := nearestContract_of_first member listed first
      exact ⟨_, nearest.routeKind_eq ▸ nearest⟩

/-- Where a class finds its parameters: a screen in the extras of its intent, a part of a screen in
    its arguments. -/
inductive TakesFrom (table : SymbolTable) (owner : Declaration) : ParamSource → Prop where
  | screen {contract : String} (nearest : table.NearestContract owner contract .screen) :
    TakesFrom table owner .intentExtras
  | subScreen {contract : String} (nearest : table.NearestContract owner contract .subScreen) :
    TakesFrom table owner .arguments

theorem takesFrom_iff (member : owner ∈ table.declarations) :
    table.TakesFrom owner source ↔ (table.routeKind owner).paramSource? = some source := by
  constructor
  · rintro (nearest | nearest) <;> rw [nearest.routeKind_eq] <;> rfl
  · intro found
    have known : table.routeKind owner ≠ .unknown := fun unknown => by
      simp [unknown, RouteKind.paramSource?] at found
    obtain ⟨contract, nearest⟩ := exists_nearestContract member known
    cases own : table.routeKind owner <;> rw [own] at found nearest <;> cases found
    · exact .screen nearest
    · exact .subScreen nearest

end Nearest

/-- The statement that reads a value from a parameter, with the kind of the value. A type that is
    known by name goes before one that is parcelable, and that before one that is serializable. -/
inductive Extracts (table : SymbolTable) (owner : Declaration) (property : Property) (key : String)
    (source : ParamSource) : ValueKind → Statement → Prop where
  | named {kind : ValueKind} (named : (property.type.name, kind) ∈ ValueKind.byTypeName) :
    Extracts table owner property key source kind (.scalarGet property.name key kind source)
  | parcelable (unnamed : property.type.name ∉ ValueKind.byTypeName.map Prod.fst)
      (reached : table.Reaches property.type.name Contract.parcelable) :
    Extracts table owner property key source .parcelable
      (.genericGet property.name key .parcelable property.type source)
  | serializable (unnamed : property.type.name ∉ ValueKind.byTypeName.map Prod.fst)
      (unparcelable : ¬table.Reaches property.type.name Contract.parcelable)
      (reached : table.Reaches property.type.name Contract.serializable) :
    Extracts table owner property key source .serializable
      (.genericGet property.name key .serializable property.type source)
  | object (unnamed : property.type.name ∉ ValueKind.byTypeName.map Prod.fst)
      (unparcelable : ¬table.Reaches property.type.name Contract.parcelable)
      (unserializable : ¬table.Reaches property.type.name Contract.serializable) :
    Extracts table owner property key source .object
      (.jsonParse property.name key property.type source
        (.logWarn (unavailableMessage property.name owner.simpleName)))

theorem extracts_iff {key : String} {source : ParamSource} {kind : ValueKind}
    {statement : Statement} :
    table.Extracts owner property key source kind statement ↔
      table.valueKind property.type = kind ∧
        statement = readStatement owner property key kind source := by
  have read : ∀ entry ∈ ValueKind.byTypeName,
      readStatement owner property key entry.2 source =
        .scalarGet property.name key entry.2 source := by
    simp [ValueKind.byTypeName, readStatement]
  constructor
  · rintro (named | ⟨unnamed, reached⟩ | ⟨unnamed, unparcelable, reached⟩ |
      ⟨unnamed, unparcelable, unserializable⟩)
    · rw [SymbolTable.valueKind, ValueKind.ofTypeName?_eq_some_iff.mpr named]
      exact ⟨rfl, (read _ named).symm⟩
    all_goals
      rw [SymbolTable.valueKind, ValueKind.ofTypeName?_eq_none_iff.mpr unnamed]
      simp_all [ValueKind.ofContracts, readStatement, ← typeImplements_iff_reaches]
  · rintro ⟨rfl, rfl⟩
    rw [SymbolTable.valueKind]
    cases known : ValueKind.ofTypeName? property.type.name with
    | some kind =>
        have named := ValueKind.ofTypeName?_eq_some_iff.mp known
        exact read _ named ▸ .named named
    | none =>
        have unnamed := ValueKind.ofTypeName?_eq_none_iff.mp known
        dsimp only
        cases parcelable : table.typeImplements property.type Contract.parcelable with
        | true => exact .parcelable unnamed (typeImplements_iff_reaches.mp parcelable)
        | false =>
            rw [← Bool.not_eq_true, typeImplements_iff_reaches] at parcelable
            cases serializable : table.typeImplements property.type Contract.serializable with
            | true =>
                exact .serializable unnamed parcelable (typeImplements_iff_reaches.mp serializable)
            | false =>
                rw [← Bool.not_eq_true, typeImplements_iff_reaches] at serializable
                exact .object unnamed parcelable serializable

/-- What a field comes to. A value that may be null, but must not, is checked after it was read. -/
inductive Dispatched (table : SymbolTable) (owner : Declaration) (property : Property) :
    Except BuildError (List Statement) → Prop where
  | hidden (closed : property.visibility = .privateScope) :
    Dispatched table owner property (.error (.inaccessibleField property.name owner.qualifiedName))
  | plain (opened : property.visibility ≠ .privateScope) (unasked : ∀ mark, ¬property.Asks mark) :
    Dispatched table owner property (.ok [])
  | lookup {mark : WireMark} (opened : property.visibility ≠ .privateScope) (asked : property.Asks mark)
      (capability : table.Reaches property.type.name Contract.provider) :
    Dispatched table owner property (.ok
      (.serviceLookup property.name property.type
          (if mark.name = "" then .declaredType else .path mark.name) ::
        if mark.required then [.nullCheck property.name owner.simpleName .throw] else []))
  | illegal {mark : WireMark} (opened : property.visibility ≠ .privateScope) (asked : property.Asks mark)
      (value : ¬table.Reaches property.type.name Contract.provider)
      (nowhere : ∀ source, ¬table.TakesFrom owner source) :
    Dispatched table owner property (.error (.illegalTarget property.name owner.qualifiedName))
  | value {mark : WireMark} {source : ParamSource} {kind : ValueKind} {extraction : Statement}
      (opened : property.visibility ≠ .privateScope)
      (asked : property.Asks mark)
      (value : ¬table.Reaches property.type.name Contract.provider)
      (takes : table.TakesFrom owner source)
      (extracts : table.Extracts owner property
        (if mark.name = "" then property.name else mark.name) source kind extraction) :
    Dispatched table owner property (.ok (extraction ::
      if mark.required = true ∧ kind ∉ ValueKind.scalars then
        [.nullCheck property.name owner.simpleName .log] else []))

theorem not_reaches_provider_iff {type : TypeRef} :
    ¬table.Reaches type.name Contract.provider ↔ table.isProvider type = false := by
  rw [← Bool.not_eq_true, isProvider, typeImplements_iff_reaches]

/-- One of the rows applies. -/
theorem dispatched_compileField (member : owner ∈ table.declarations) :
    table.Dispatched owner property
      (table.compileField owner (table.routeKind owner) property) := by
  by_cases closed : property.visibility = .privateScope
  · simp only [compileField, checkAccess, closed, if_true]
    exact .hidden closed
  simp only [compileField, checkAccess, closed, if_false]
  cases directed : property.directive with
  | none => exact .plain closed fun mark asked => by simp [Property.asks_iff.mp asked] at directed
  | some mark =>
      have asked := Property.asks_iff.mpr directed
      cases capability : table.isProvider property.type with
      | true =>
          simp only [if_true, lookupStatements_eq]
          exact .lookup closed asked (typeImplements_iff_reaches.mp capability)
      | false =>
          have value := not_reaches_provider_iff.mpr capability
          simp only [Bool.false_eq_true, if_false]
          cases found : (table.routeKind owner).paramSource? with
          | none =>
              exact .illegal closed asked value fun source takes => by
                simp [(takesFrom_iff member).mp takes] at found
          | some source =>
              simp only [readStatements_eq]
              exact .value closed asked value ((takesFrom_iff member).mpr found)
                (extracts_iff.mpr ⟨rfl, rfl⟩)

/-- The row that applies says what the statements are. -/
theorem Dispatched.compileField_eq {result : Except BuildError (List Statement)}
    (member : owner ∈ table.declarations) (dispatched : table.Dispatched owner property result) :
    table.compileField owner (table.routeKind owner) property = result := by
  unfold compileField checkAccess
  cases dispatched with
  | hidden closed => rw [if_pos closed]
  | plain opened unasked =>
      have undirected : property.directive = none :=
        Option.eq_none_iff_forall_ne_some.mpr fun mark directed =>
          unasked mark (Property.asks_iff.mpr directed)
      simp [opened, undirected]
  | lookup opened asked capability =>
      have provider : table.isProvider property.type = true :=
        typeImplements_iff_reaches.mpr capability
      simp [opened, Property.asks_iff.mp asked, provider, lookupStatements_eq]
  | illegal opened asked value nowhere =>
      have undecided : (table.routeKind owner).paramSource? = none :=
        Option.eq_none_iff_forall_ne_some.mpr fun source found =>
          nowhere source ((takesFrom_iff member).mpr found)
      simp [opened, Property.asks_iff.mp asked, not_reaches_provider_iff.mp value, undecided]
  | value opened asked value takes extracts =>
      obtain ⟨rfl, rfl⟩ := extracts_iff.mp extracts
      simp [opened, Property.asks_iff.mp asked, not_reaches_provider_iff.mp value,
        (takesFrom_iff member).mp takes, readStatements_eq]

/-- The statements of a field, or what is wrong with it, are those of its row of the table. -/
theorem compileField_eq_iff_dispatched {result : Except BuildError (List Statement)}
    (member : owner ∈ table.declarations) :
    table.compileField owner (table.routeKind owner) property = result ↔
      table.Dispatched owner property result :=
  ⟨fun made => made ▸ dispatched_compileField member, fun row => row.compileField_eq member⟩

section Parcels

private def parcelField : Property :=
  { name := "user", type := .named "app.User", wire := some { required := true } }

private def parcelPage : Declaration :=
  { qualifiedName := "app.Page"
    supertypes := [.named Contract.activity]
    properties := [parcelField] }

/-- A page whose field is serializable by its own class, and parcelable by the class above. -/
private def parcels : SymbolTable :=
  .ofList [parcelPage,
    { qualifiedName := "app.User"
      supertypes := [.named Contract.serializable, .named "app.Base"] },
    { qualifiedName := "app.Base", supertypes := [.named Contract.parcelable] }]

private theorem routeKind_parcelPage : parcels.routeKind parcelPage = .screen := by
  have single : parcelPage.supertypes = [.named Contract.activity] := rfl
  rw [routeKind, firstMatch_of_unknown single (by decide) (by decide +kernel)]
  decide +kernel

private theorem lineage_user : parcels.lineage (.named "app.User") =
    ["app.User", Contract.serializable, "app.Base", Contract.parcelable] := by
  have user : parcels.supertypeNames "app.User" = [Contract.serializable, "app.Base"] := by
    decide +kernel
  have base : parcels.supertypeNames "app.Base" = [Contract.parcelable] := by decide +kernel
  have serializable : parcels.supertypeNames Contract.serializable = [] := by decide +kernel
  have parcelable : parcels.supertypeNames Contract.parcelable = [] := by decide +kernel
  rw [Contract.serializable] at serializable
  rw [Contract.parcelable] at parcelable
  rw [lineage_eq]
  simp [TypeRef.named, walk_fresh, user, base, serializable, parcelable, Contract.serializable,
    Contract.parcelable]

/-- That a value is parcelable counts first, however far off the contract is. -/
theorem dispatched_of_parcels :
    parcelPage ∈ parcels.declarations ∧
      parcels.Dispatched parcelPage parcelField (.ok
        [.genericGet "user" "user" .parcelable (.named "app.User") .intentExtras,
          .nullCheck "user" "Page" .log]) := by
  have member : parcelPage ∈ parcels.declarations := by decide +kernel
  refine ⟨member, (compileField_eq_iff_dispatched member).mp ?_⟩
  have type : parcelField.type = .named "app.User" := rfl
  simp only [compileField, isProvider, valueKind, typeImplements, typeFirstMatch, type,
    lineage_user, routeKind_parcelPage]
  decide +kernel

end Parcels

end SymbolTable

end RouteAtlas
