import RouteAtlas.Proofs.Delivery.Deferrable

/-! # Declarations that come late

A declaration that is not resolved in one delivery may be resolved in the next. The build then ends
as if it had been resolved at once, provided that its classification does not draw on annotated
classes: of these the next round has lost the supertypes.
-/

namespace RouteAtlas

/-- A build in which a declaration of a snapshot comes late ends as the one in which it does not.
    The second round has a table of its own. -/
structure Transparent {σ : Type} (module : String) (snapshot : List Declaration)
    (late : Declaration) (second : SymbolTable) (whole split : Session (WriteOnce (σ × Ledger))) :
    Prop where
  alike : SymbolTable.Alike second (.ofList snapshot) late
  routes : split.build.routes = whole.build.routes
  hooks : split.build.hooks = whole.build.hooks
  tables : ∀ key, IsTableKey module key → ∀ source,
    (split.Wrote key source ↔ whole.Wrote key source)
  units : InjectorApart (apartFrom late snapshot) late → ∀ key source,
    (split.Wrote key source ↔ whole.Wrote key source)

/-- A declaration may come late if its classification does not draw on annotated declarations. -/
theorem transparent_of_deferrable {σ : Type} {pipeline : Pipeline} {inner : Sink σ} {start : σ}
    {module : String} {snapshot : List Declaration} {late : Declaration}
    (named : pipeline.options.moduleName = some module) (accepts : inner.Accepts)
    (deferrable : Deferrable snapshot late)
    (apart : ∀ other ∈ snapshot, other ≠ late → other.isMarked = true →
      ¬(SymbolTable.ofList snapshot).DrawsOn late other.qualifiedName) :
    let sink := Sink.writeOnce inner.noting
    let blank : WriteOnce (σ × Ledger) := ⟨(start, []), []⟩
    let first := (pipeline.deliver sink { state := blank } (postpone late snapshot)).2
    Transparent module snapshot late (first.carry.table [late])
      (pipeline.buildAll sink blank [snapshot])
      (pipeline.buildAll sink blank [postpone late snapshot, [late]]) := by
  intro sink blank first
  obtain ⟨before, after, rfl⟩ := List.append_of_mem deferrable.member
  have distinct := deferrable.distinct
  have others : ∀ other ∈ before ++ after, other ≠ late := by
    rintro other member rfl
    exact name_not_mem distinct (List.mem_map_of_mem member)
  have split := deferrable.split
  have alike : SymbolTable.Alike (.ofList (libraryOf (before ++ after) ++ [late]))
      (.ofList (before ++ late :: after)) late := by
    apply SymbolTable.Alike.symm
    apply SymbolTable.alike_of_drawsOn
    intro name
    refine (supertypeNames_library distinct split.secondEq name).imp_right ?_
    rintro ⟨nothing, other, member, marked, rfl⟩
    exact ⟨nothing, apart other (List.perm_middle.mem_iff.mpr (List.mem_cons_of_mem _ member))
      (others other member) marked⟩
  -- Both builds end with what their rounds found, which is the same for tables that agree so far.
  obtain ⟨wholeSound, firstSound, secondSound, -⟩ := split.stagedHooks_eq alike deferrable.hooks
  have whole : (pipeline.buildAll sink blank [before ++ late :: after]).Ends _ _ _ :=
    Pipeline.ends_single named accepts rfl wholeSound
  have pair : (pipeline.buildAll sink blank
      [postpone late (before ++ late :: after), [late]]).Ends _ _ _ :=
    deferrable.ends named accepts rfl rfl firstSound secondSound
  rw [split.staged_eq alike deferrable.routes deferrable.hooks] at pair
  have wrote : ∀ key, (IsTableKey module key ∨ InjectorApart (before ++ after) late) →
      ∀ source, (pipeline.buildAll sink blank
          [postpone late (before ++ late :: after), [late]]).Wrote key source ↔
        (pipeline.buildAll sink blank [before ++ late :: after]).Wrote key source := by
    intro key settled source
    rw [whole.wrote, pair.wrote,
      split.find_offers alike deferrable.routes deferrable.hooks named settled]
  constructor
  case alike =>
    simp only [first]
    rw [deferrable.table_eq]
    exact alike
  case routes => rw [pair.build, whole.build]
  case hooks => rw [pair.build, whole.build]
  case tables => exact fun key isTable => wrote key (.inl isTable)
  case units =>
    rw [apartFrom_eq distinct]
    exact fun apart key => wrote key (.inr apart)

/-- A page at a path, with one supertype. -/
private def pageAt (path name supertype : String) : Declaration where
  qualifiedName := name
  supertypes := [.named supertype]
  marks := { route := some { path } }

/-- A library class that is a screen. -/
private def basePage : Declaration where
  qualifiedName := "app.Base"
  supertypes := [.named Contract.activity]

private def appPipeline : Pipeline where
  options := { moduleName := some "app" }

/-- The class with a number that is injected. -/
private def withCount (decl : Declaration) : Declaration :=
  { decl with properties := [{ name := "count", type := .named "int", wire := some {} }] }

/-- A page may come late if it is a screen by a class of the library, whatever pages there are. -/
theorem transparent_of_basePage :
    let home := withCount (pageAt "/main/home" "app.Home" Contract.activity)
    let late := withCount (pageAt "/main/detail" "app.Detail" "app.Base")
    let snapshot := [basePage, home, late]
    let sink := Sink.writeOnce Sink.memory.noting
    let blank : WriteOnce (Store × Ledger) := ⟨(.empty, []), []⟩
    let first := (appPipeline.deliver sink { state := blank } (postpone late snapshot)).2
    appPipeline.options.moduleName = some "app" ∧ Sink.memory.Accepts ∧
      Deferrable snapshot late ∧
      (∀ other ∈ snapshot, other ≠ late → other.isMarked = true →
        ¬(SymbolTable.ofList snapshot).DrawsOn late other.qualifiedName) ∧
      InjectorApart (apartFrom late snapshot) late ∧
      Transparent "app" snapshot late (first.carry.table [late])
        (appPipeline.buildAll sink blank [snapshot])
        (appPipeline.buildAll sink blank [postpone late snapshot, [late]]) := by
  intro home late snapshot sink blank first
  have named : appPipeline.options.moduleName = some "app" := rfl
  have deferrable : Deferrable snapshot late :=
    .of_marks (by decide +kernel) (by decide +kernel) (by decide +kernel) (by decide +kernel)
      (by decide +kernel) (by decide +kernel)
  have apart : ∀ other ∈ snapshot, other ≠ late → other.isMarked = true →
      ¬(SymbolTable.ofList snapshot).DrawsOn late other.qualifiedName := by
    rintro other member differs marked ⟨⟨start, mentioned, reached⟩, -⟩
    let library := ["app.Base", Contract.activity, "int"]
    have closed : ∀ name ∈ library,
        (SymbolTable.ofList snapshot).supertypeNames name ⊆ library := by decide +kernel
    have starts : late.mentions ⊆ library := by decide +kernel
    have known := SymbolTable.mem_of_reaches closed reached (starts mentioned)
    have unknown : ∀ decl ∈ snapshot, decl.isMarked = true →
        decl.qualifiedName ∉ library := by decide +kernel
    exact unknown other member marked known
  have injectors : InjectorApart (apartFrom late snapshot) late := by
    intro _ _
    have others : Accessible (apartFrom late snapshot) := by
      unfold Accessible
      decide +kernel
    have own : Accessible [late] := by
      unfold Accessible
      decide +kernel
    exact ⟨iff_of_true others own, by decide +kernel⟩
  exact ⟨named, Sink.accepts_memory, deferrable, apart, injectors,
    transparent_of_deferrable named Sink.accepts_memory deferrable apart⟩

section Losses

/-- The build of a snapshot at once. -/
private def atOnce (snapshot : List Declaration) : Session (WriteOnce (Store × Ledger)) :=
  appPipeline.buildAll (.writeOnce Sink.memory.noting) ⟨(.empty, []), []⟩ [snapshot]

/-- The build of a snapshot in which a declaration comes late. -/
private def inTwo (snapshot : List Declaration) (late : Declaration) :
    Session (WriteOnce (Store × Ledger)) :=
  appPipeline.buildAll (.writeOnce Sink.memory.noting) ⟨(.empty, []), []⟩
    [postpone late snapshot, [late]]

private theorem extractRoute_pageAt {table : SymbolTable} {path name supertype : String}
    (kind : table.routeKind (pageAt path name supertype) = .screen) :
    (table.extractRoute (pageAt path name supertype)).toOption =
      some { path, kind := .screen, target := .named name } := by
  rw [SymbolTable.extractRoute, kind]
  rfl

private def startPage : Declaration := pageAt "/main/home" "app.Home" Contract.activity

/-- A page that is a screen by another page. -/
private def detailPage : Declaration := pageAt "/main/detail" "app.Detail" "app.Home"

private theorem routeKind_startPage {table : SymbolTable}
    (unknown : table.resolve Contract.activity = none) : table.routeKind startPage = .screen := by
  have single : startPage.supertypes = [.named Contract.activity] := rfl
  rw [SymbolTable.routeKind, SymbolTable.firstMatch_of_unknown single (by decide) unknown]
  decide +kernel

private theorem routeKind_detailPage :
    (SymbolTable.ofList [startPage, detailPage]).routeKind detailPage = .screen := by
  have supertypes : (SymbolTable.ofList [startPage, detailPage]).supertypeNames "app.Home" =
      [Contract.activity] := by decide +kernel
  have none : (SymbolTable.ofList [startPage, detailPage]).supertypeNames Contract.activity =
      [] := by decide +kernel
  have line : (SymbolTable.ofList [startPage, detailPage]).ancestors detailPage =
      ["app.Home", Contract.activity] := by
    change SymbolTable.walk _ ["app.Detail"] ["app.Home"] = _
    rw [SymbolTable.walk_fresh (by decide), supertypes, List.nil_append,
      SymbolTable.walk_fresh (by decide), none, List.nil_append, SymbolTable.walk_nil]
  rw [SymbolTable.routeKind, SymbolTable.firstMatch, line]
  decide +kernel

private def startRecord : RouteRecord where
  path := "/main/home"
  kind := .screen
  target := .named "app.Home"

private def detailRecord : RouteRecord where
  path := "/main/detail"
  kind := .screen
  target := .named "app.Detail"

private theorem stagedRoutes_atOnce :
    (SymbolTable.ofList [startPage, detailPage]).stagedRoutes .empty =
      (RouteTable.empty.insertAll [startRecord, detailRecord]).table := by
  have found : resolvedOnes (SymbolTable.ofList [startPage, detailPage]).routes =
      [startPage, detailPage] := by decide +kernel
  have start : ((SymbolTable.ofList [startPage, detailPage]).extractRoute
      startPage).toOption = some startRecord :=
    extractRoute_pageAt (routeKind_startPage (by decide +kernel))
  have detail : ((SymbolTable.ofList [startPage, detailPage]).extractRoute
      detailPage).toOption = some detailRecord := extractRoute_pageAt routeKind_detailPage
  rw [SymbolTable.stagedRoutes, found]
  simp only [SymbolTable.extractRoutes, List.filterMap_cons, start, detail, List.filterMap_nil]

private theorem stagedRoutes_before :
    (SymbolTable.ofList [startPage, detailPage.unresolved]).stagedRoutes .empty =
      (RouteTable.empty.insertAll [startRecord]).table := by
  have found : resolvedOnes (SymbolTable.ofList [startPage, detailPage.unresolved]).routes =
      [startPage] := by decide +kernel
  have start : ((SymbolTable.ofList [startPage, detailPage.unresolved]).extractRoute
      startPage).toOption = some startRecord :=
    extractRoute_pageAt (routeKind_startPage (by decide +kernel))
  rw [SymbolTable.stagedRoutes, found]
  simp only [SymbolTable.extractRoutes, List.filterMap_cons, start, List.filterMap_nil]

/-- Without the page that it is a screen by, a page is no route. -/
private theorem stagedRoutes_afterwards (routes : RouteTable) :
    (SymbolTable.ofList [detailPage]).stagedRoutes routes = routes := by
  have found : resolvedOnes (SymbolTable.ofList [detailPage]).routes = [detailPage] := by
    decide +kernel
  have single : detailPage.supertypes = [.named "app.Home"] := rfl
  have kind : (SymbolTable.ofList [detailPage]).routeKind detailPage = .unknown := by
    rw [SymbolTable.routeKind,
      SymbolTable.firstMatch_of_unknown single (by decide) (by decide +kernel)]
    decide +kernel
  have refused : ((SymbolTable.ofList [detailPage]).extractRoute detailPage).toOption = none := by
    rw [SymbolTable.extractRoute, kind]
    rfl
  rw [SymbolTable.stagedRoutes, found]
  simp only [SymbolTable.extractRoutes, List.filterMap_cons, refused, List.filterMap_nil]
  rfl

private theorem routes_lost :
    Deferrable [startPage, detailPage] detailPage ∧
      (inTwo [startPage, detailPage] detailPage).build.routes ≠
        (atOnce [startPage, detailPage]).build.routes := by
  have deferrable : Deferrable ([startPage] ++ detailPage :: []) detailPage :=
    .of_marks (by decide +kernel) (by decide +kernel) (by decide +kernel) (by decide +kernel)
      (by decide +kernel) (by decide +kernel)
  refine ⟨deferrable, ?_⟩
  have named : appPipeline.options.moduleName = some "app" := rfl
  have whole : (atOnce [startPage, detailPage]).Ends _ _ _ :=
    Pipeline.ends_single named Sink.accepts_memory rfl rfl
  have pair : (inTwo [startPage, detailPage] detailPage).Ends _ _ _ :=
    deferrable.ends named Sink.accepts_memory rfl rfl rfl rfl
  have differ : (RouteTable.empty.insertAll [startRecord]).table ≠
      (RouteTable.empty.insertAll [startRecord, detailRecord]).table := by decide +kernel
  rw [pair.build, whole.build]
  rw [← stagedRoutes_atOnce, ← stagedRoutes_before,
    ← stagedRoutes_afterwards (SymbolTable.stagedRoutes _ _)] at differ
  exact differ

/-- A class with one capability. -/
private def holderOf (field name : String) (visibility : Visibility) : Declaration where
  qualifiedName := name
  properties := [{ name := field, visibility, type := .named Contract.provider, wire := some {} }]

/-- The injector of a class with one capability. -/
private def holderPlan (field name : String) : InjectorPlan :=
  ⟨.named name, [.serviceLookup field (.named Contract.provider) .declaredType]⟩

private theorem injectorOf_holderOf {table : SymbolTable} {field name : String} :
    table.injectorOf (holderOf field name .publicScope) = .ok (holderPlan field name) := by
  have capability : table.isProvider (.named Contract.provider) = true := by
    rw [SymbolTable.isProvider, SymbolTable.typeImplements, SymbolTable.typeFirstMatch,
      SymbolTable.lineage, firstMatch, List.findSome?_cons]
    rfl
  refine SymbolTable.compileInjector_eq_ok_iff.mpr
    ⟨[[.serviceLookup field (.named Contract.provider) .declaredType]], .cons ?_ .nil, rfl⟩
  refine SymbolTable.compileField_eq_ok_iff.mpr ⟨Visibility.noConfusion, ?_⟩
  simp only [Property.directive, capability, if_true]
  rfl

/-- Classes with one capability each that is not private. -/
private def holders (fields : List (String × String)) : List Declaration :=
  fields.map fun (field, name) => holderOf field name .publicScope

private def holderUnits (fields : List (String × String)) : List GeneratedUnit :=
  fields.map fun (field, name) => (holderPlan field name).unit

private theorem injectorOffer_holders {table : SymbolTable} {fields : List (String × String)}
    (found : resolvedOnes table.owners = holders fields) :
    Pipeline.injectorOffer table = holderUnits fields := by
  have accessible : Accessible (holders fields) := by
    intro decl member property injected
    obtain ⟨holder, -, rfl⟩ := List.mem_map.mp member
    rw [List.mem_singleton.mp (List.mem_filter.mp injected).1]
    exact Visibility.noConfusion
  have plans : table.plansOf (holders fields) =
      fields.map fun (field, name) => holderPlan field name := by
    rw [SymbolTable.plansOf, holders, List.filterMap_map]
    simp only [Function.comp_def, injectorOf_holderOf, Except.toOption, List.filterMap_eq_map']
  rw [Pipeline.injectorOffer_of_accessible found accessible, plans, List.map_map]
  rfl

private def closedHolder : Declaration := holderOf "store" "app.Closed" .privateScope

private def openHolder : Declaration := holderOf "store" "app.Open" .publicScope

/-- The private field of the first class keeps the injector of the second back only in a round that
    has both. -/
private theorem injectors_won :
    Deferrable [closedHolder, openHolder] openHolder ∧
      ¬∀ key source, ((inTwo [closedHolder, openHolder] openHolder).Wrote key source ↔
        (atOnce [closedHolder, openHolder]).Wrote key source) := by
  have deferrable : Deferrable ([closedHolder] ++ openHolder :: []) openHolder :=
    .of_marks (by decide +kernel) (by decide +kernel) (by decide +kernel) (by decide +kernel)
      (by decide +kernel) (by decide +kernel)
  refine ⟨deferrable, fun same => ?_⟩
  have closed : ¬Accessible [closedHolder] := fun accessible =>
    accessible closedHolder List.mem_cons_self _ List.mem_cons_self rfl
  have wholeOffer : Pipeline.injectorOffer (.ofList [closedHolder, openHolder]) = [] :=
    Pipeline.injectorOffer_of_not_accessible (show _ = [closedHolder, openHolder] by decide +kernel)
      fun accessible => closed (accessible_cons.mp accessible).1
  have firstOffer : Pipeline.injectorOffer (.ofList [closedHolder, openHolder.unresolved]) = [] :=
    Pipeline.injectorOffer_of_not_accessible (by decide +kernel) closed
  have secondOffer : Pipeline.injectorOffer (.ofList [openHolder]) =
      holderUnits [("store", "app.Open")] := injectorOffer_holders (by decide +kernel)
  have named : appPipeline.options.moduleName = some "app" := rfl
  have plain : ∀ decl ∈ [closedHolder, openHolder], decl.marks = {} := by decide +kernel
  have whole : (atOnce [closedHolder, openHolder]).Ends appPipeline.language {}
      (Pipeline.injectorOffer (.ofList [closedHolder, openHolder])) :=
    (deferrable.ends_plain named Sink.accepts_memory plain).1
  have pair : (inTwo [closedHolder, openHolder] openHolder).Ends appPipeline.language {}
      (Pipeline.injectorOffer (.ofList [closedHolder, openHolder.unresolved]) ++
        Pipeline.injectorOffer (.ofList [openHolder])) :=
    (deferrable.ends_plain named Sink.accepts_memory plain).2
  rw [wholeOffer] at whole
  rw [firstOffer, secondOffer, List.nil_append] at pair
  have found : (Ledger.find (appPipeline.language.renderAll (holderUnits [("store", "app.Open")]))
      (.injector (.named "app.Open"))).isSome = true := by decide +kernel
  obtain ⟨unit, found⟩ := Option.isSome_iff_exists.mp found
  obtain ⟨_, nothing, -⟩ := whole.wrote.mp ((same _ _).mp (pair.wrote.mpr ⟨unit, found, rfl⟩))
  cases nothing

private def dottedHolder : Declaration := holderOf "first" ".Page" .publicScope

/-- A class whose injector is named as that of the class before. -/
private def bareHolder : Declaration := holderOf "second" "Page" .publicScope

private theorem injectors_swapped :
    Deferrable [dottedHolder, bareHolder] dottedHolder ∧
      ¬∀ key source, ((inTwo [dottedHolder, bareHolder] dottedHolder).Wrote key source ↔
        (atOnce [dottedHolder, bareHolder]).Wrote key source) := by
  have deferrable : Deferrable ([] ++ dottedHolder :: [bareHolder]) dottedHolder :=
    .of_marks (by decide +kernel) (by decide +kernel) (by decide +kernel) (by decide +kernel)
      (by decide +kernel) (by decide +kernel)
  refine ⟨deferrable, fun same => ?_⟩
  have wholeOffer : Pipeline.injectorOffer (.ofList [dottedHolder, bareHolder]) =
      holderUnits [("first", ".Page"), ("second", "Page")] :=
    injectorOffer_holders (by decide +kernel)
  have firstOffer : Pipeline.injectorOffer (.ofList [dottedHolder.unresolved, bareHolder]) =
      holderUnits [("second", "Page")] := injectorOffer_holders (by decide +kernel)
  have secondOffer : Pipeline.injectorOffer (.ofList [dottedHolder]) =
      holderUnits [("first", ".Page")] := injectorOffer_holders (by decide +kernel)
  have named : appPipeline.options.moduleName = some "app" := rfl
  have plain : ∀ decl ∈ [dottedHolder, bareHolder], decl.marks = {} := by decide +kernel
  have whole : (atOnce [dottedHolder, bareHolder]).Ends appPipeline.language {}
      (Pipeline.injectorOffer (.ofList [dottedHolder, bareHolder])) :=
    (deferrable.ends_plain named Sink.accepts_memory plain).1
  have pair : (inTwo [dottedHolder, bareHolder] dottedHolder).Ends appPipeline.language {}
      (Pipeline.injectorOffer (.ofList [dottedHolder.unresolved, bareHolder]) ++
        Pipeline.injectorOffer (.ofList [dottedHolder])) :=
    (deferrable.ends_plain named Sink.accepts_memory plain).2
  rw [wholeOffer] at whole
  rw [firstOffer, secondOffer] at pair
  have found : (Ledger.find (appPipeline.language.renderAll
      (holderUnits [("first", ".Page"), ("second", "Page")]))
      (.injector (.named "Page"))).isSome = true := by decide +kernel
  obtain ⟨unit, found⟩ := Option.isSome_iff_exists.mp found
  obtain ⟨other, otherFound, written⟩ :=
    pair.wrote.mp ((same _ _).mpr (whole.wrote.mpr ⟨unit, found, rfl⟩))
  have differ : (Ledger.find (appPipeline.language.renderAll
        (holderUnits [("second", "Page")] ++ holderUnits [("first", ".Page")]))
        (.injector (.named "Page"))).map RenderedUnit.source ≠
      (Ledger.find (appPipeline.language.renderAll
        (holderUnits [("first", ".Page"), ("second", "Page")]))
        (.injector (.named "Page"))).map RenderedUnit.source := by decide +kernel
  rw [otherFound, found, Option.map_some, Option.map_some, written] at differ
  exact differ rfl

/-- What a late declaration may change: an annotated class is not in the library of the next round,
    a private field ends the work on injectors of its own round only, and of two injectors of one
    name the first to come is kept. -/
theorem deferral_loses :
    appPipeline.options.moduleName = some "app" ∧ Sink.memory.Accepts ∧
      (Deferrable [startPage, detailPage] detailPage ∧
        (inTwo [startPage, detailPage] detailPage).build.routes ≠
          (atOnce [startPage, detailPage]).build.routes) ∧
      (Deferrable [closedHolder, openHolder] openHolder ∧
        ¬∀ key source, ((inTwo [closedHolder, openHolder] openHolder).Wrote key source ↔
          (atOnce [closedHolder, openHolder]).Wrote key source)) ∧
      (Deferrable [dottedHolder, bareHolder] dottedHolder ∧
        ¬∀ key source, ((inTwo [dottedHolder, bareHolder] dottedHolder).Wrote key source ↔
          (atOnce [dottedHolder, bareHolder]).Wrote key source)) :=
  ⟨rfl, Sink.accepts_memory, routes_lost, injectors_won, injectors_swapped⟩

end Losses

end RouteAtlas
