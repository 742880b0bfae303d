import RouteAtlas.Host.FileTree
import RouteAtlas.Proofs.Build.Reachable
import RouteAtlas.Proofs.Round.Seen
import RouteAtlas.Proofs.Round.Units
import RouteAtlas.Proofs.Sink.Local

/-! # Processors that keep to themselves

The processors of a round share a table, the state of the build and a sink. None of them leaves a
trace in what another one does, even if it gives up or fails to write its units.
-/

namespace RouteAtlas

/-- Two builds carry the same for a processor. -/
def Processor.Carries : Processor → BuildState → BuildState → Prop
  | .route, build, other => build.routes = other.routes
  | .interceptor, build, other => build.hooks = other.hooks
  | .autowired, _, _ => True

/-- What a processor did in a round. -/
def RoundOutcome.reportOf? (outcome : RoundOutcome) (processor : Processor) : Option Report :=
  outcome.reports.find? fun report => decide (report.processor = processor)

/-- What a report says, apart from what became of the units. -/
def Report.judgement (report : Report) : Report :=
  { report with emitted := {} }

/-- Two rounds do not differ in what a processor reports, carries on, and holds in the sink. -/
structure SameWork {σ α : Type} (held : σ → String → α) (language : Language)
    (processor : Processor) (first second : RoundOutcome × WriteOnce σ) : Prop where
  report : first.1.reportOf? processor = second.1.reportOf? processor
  carried : processor.Carries first.1.state second.1.state
  docs : processor = .route → first.1.docs = second.1.docs
  sink : WriteOnce.AgreeOn held language processor first.2 second.2

/-- The work of a processor on two tables does not differ, whatever the others come to in them. -/
structure Undisturbed {σ : Type} (inner : Sink σ) (pipeline : Pipeline) (processor : Processor)
    (build incoming : BuildState) (table other : SymbolTable) : Prop where
  /-- Over any sink it finds, drops and puts off the same, and gives up over the same. -/
  judgement : ∀ state otherState, ∃ judgement : Report,
    ((pipeline.runRound (.writeOnce inner) build table state).1.reportOf? processor).map
        Report.judgement = some judgement ∧
      ((pipeline.runRound (.writeOnce inner) incoming other otherState).1.reportOf? processor).map
        Report.judgement = some judgement
  /-- Routes come first in a round, so that any sink takes their units the same way. -/
  first : processor = .route → ∀ state,
    let before := pipeline.runRound (.writeOnce inner) build table state
    let after := pipeline.runRound (.writeOnce inner) incoming other state
    before.1.reportOf? .route = after.1.reportOf? .route ∧ before.1.docs = after.1.docs ∧
      before.1.state.routes = after.1.state.routes
  /-- A sink that keeps units apart takes the units of every processor the same way. -/
  work : ∀ {α : Type} {held : σ → String → α}, inner.Local held →
    ∀ {state otherState}, WriteOnce.AgreeOn held pipeline.language processor state otherState →
      SameWork held pipeline.language processor
        (pipeline.runRound (.writeOnce inner) build table state)
        (pipeline.runRound (.writeOnce inner) incoming other otherState)

namespace Pipeline

section Owns

variable {pipeline : Pipeline} {table : SymbolTable} {unit : GeneratedUnit}

theorem owns_routeOffer {routes : RouteTable} (wellFormed : routes.WellFormed)
    (member : unit ∈ pipeline.routeOffer table routes) : Processor.route.Owns unit.key := by
  obtain ⟨module, listed⟩ := mem_routeOffer member
  exact ⟨module, (RouteTable.wellFormed_insertAll wellFormed _).isRouteKey listed⟩

theorem owns_hookOffer {hooks : HookTable} (member : unit ∈ pipeline.hookOffer table hooks) :
    Processor.interceptor.Owns unit.key := by
  obtain ⟨module, rfl⟩ := mem_hookOffer member
  exact ⟨module, rfl⟩

theorem owns_injectorOffer (member : unit ∈ injectorOffer table) :
    Processor.autowired.Owns unit.key := by
  obtain ⟨plan, rfl⟩ := mem_injectorOffer member
  exact ⟨plan.target, rfl⟩

end Owns

section Steps

variable {σ α : Type} {pipeline : Pipeline} {inner : Sink σ} {held : σ → String → α}
  {processor : Processor} {table other : SymbolTable} {first second : WriteOnce σ}
  (isolated : inner.Local held)
include isolated

section Other

variable (agree : WriteOnce.AgreeOn held pipeline.language processor first second)
include agree

/-- The work on routes is of no concern to the other processors. -/
theorem runRoutes_other (table other : SymbolTable) (apart : processor ≠ .route)
    {routes others : RouteTable} (wellFormed : routes.WellFormed)
    (otherFormed : others.WellFormed) :
    WriteOnce.AgreeOn held pipeline.language processor
      (pipeline.runRoutes (.writeOnce inner) table routes first).state
      (pipeline.runRoutes (.writeOnce inner) other others second).state := by
  rw [(runRoutes_offer routes).1, (runRoutes_offer others).1]
  exact agree.emit_others isolated apart (fun _ => owns_routeOffer wellFormed)
    fun _ => owns_routeOffer otherFormed

theorem runHooks_other (table other : SymbolTable) (apart : processor ≠ .interceptor)
    (hooks others : HookTable) :
    WriteOnce.AgreeOn held pipeline.language processor
      (pipeline.runHooks (.writeOnce inner) table hooks first).state
      (pipeline.runHooks (.writeOnce inner) other others second).state := by
  rw [(runHooks_offer hooks).1, (runHooks_offer others).1]
  exact agree.emit_others isolated apart (fun _ => owns_hookOffer) fun _ => owns_hookOffer

theorem runInjectors_other (table other : SymbolTable) (apart : processor ≠ .autowired) :
    WriteOnce.AgreeOn held pipeline.language processor
      (pipeline.runInjectors (.writeOnce inner) table first).state
      (pipeline.runInjectors (.writeOnce inner) other second).state := by
  rw [runInjectors_offer.1, runInjectors_offer.1]
  exact agree.emit_others isolated apart (fun _ => owns_injectorOffer) fun _ => owns_injectorOffer

end Other

section Own

/-- The work on routes depends on what their processor sees of a table, and on what the sink holds
    of its units. -/
theorem runRoutes_own (same : table.seenBy .route = other.seenBy .route) {routes : RouteTable}
    (wellFormed : routes.WellFormed)
    (agree : WriteOnce.AgreeOn held pipeline.language .route first second) :
    let before := pipeline.runRoutes (.writeOnce inner) table routes first
    let after := pipeline.runRoutes (.writeOnce inner) other routes second
    before.report = after.report ∧ before.routes = after.routes ∧ before.docs = after.docs ∧
      WriteOnce.AgreeOn held pipeline.language .route before.state after.state := by
  have own : ∀ unit ∈ pipeline.routeOffer other routes, Processor.route.Owns unit.key :=
    fun _ => owns_routeOffer wellFormed
  obtain ⟨emitted, states⟩ := agree.emit_own isolated own
  have report : (pipeline.runRoutes (.writeOnce inner) other routes first).report =
      (pipeline.runRoutes (.writeOnce inner) other routes second).report := by
    rw [report_runRoutes, report_runRoutes, emitted]
  dsimp only
  rw [runRoutes_congr same, report, routes_runRoutes, routes_runRoutes, docs_runRoutes,
    docs_runRoutes, report, (runRoutes_offer routes).1, (runRoutes_offer routes).1]
  exact ⟨rfl, rfl, rfl, states⟩

theorem runHooks_own (same : table.seenBy .interceptor = other.seenBy .interceptor)
    (hooks : HookTable)
    (agree : WriteOnce.AgreeOn held pipeline.language .interceptor first second) :
    let before := pipeline.runHooks (.writeOnce inner) table hooks first
    let after := pipeline.runHooks (.writeOnce inner) other hooks second
    before.report = after.report ∧ before.hooks = after.hooks ∧
      WriteOnce.AgreeOn held pipeline.language .interceptor before.state after.state := by
  have own : ∀ unit ∈ pipeline.hookOffer other hooks, Processor.interceptor.Owns unit.key :=
    fun _ => owns_hookOffer
  obtain ⟨emitted, states⟩ := agree.emit_own isolated own
  have report : (pipeline.runHooks (.writeOnce inner) other hooks first).report =
      (pipeline.runHooks (.writeOnce inner) other hooks second).report := by
    rw [report_runHooks, report_runHooks, emitted]
  dsimp only
  rw [runHooks_congr same, report, hooks_runHooks, hooks_runHooks, report, (runHooks_offer hooks).1,
    (runHooks_offer hooks).1]
  exact ⟨rfl, rfl, states⟩

theorem runInjectors_own (same : table.seenBy .autowired = other.seenBy .autowired)
    (agree : WriteOnce.AgreeOn held pipeline.language .autowired first second) :
    let before := pipeline.runInjectors (.writeOnce inner) table first
    let after := pipeline.runInjectors (.writeOnce inner) other second
    before.report = after.report ∧
      WriteOnce.AgreeOn held pipeline.language .autowired before.state after.state := by
  have own : ∀ unit ∈ injectorOffer other, Processor.autowired.Owns unit.key :=
    fun _ => owns_injectorOffer
  obtain ⟨emitted, states⟩ := agree.emit_own isolated own
  dsimp only
  rw [runInjectors_congr same, report_runInjectors, report_runInjectors, emitted,
    runInjectors_offer.1, runInjectors_offer.1]
  exact ⟨rfl, states⟩

end Own

end Steps

section Reports

variable {σ : Type} {pipeline : Pipeline} {sink : Sink σ} {table : SymbolTable}
  {build : BuildState} {state : σ}

theorem reportOf?_route :
    (pipeline.runRound sink build table state).1.reportOf? .route =
      some (pipeline.runRoutes sink table build.routes state).report := by
  simp [RoundOutcome.reportOf?, runRound, runRoutes_processor]

theorem reportOf?_interceptor :
    (pipeline.runRound sink build table state).1.reportOf? .interceptor =
      some (pipeline.runHooks sink table build.hooks
        (pipeline.runRoutes sink table build.routes state).state).report := by
  simp [RoundOutcome.reportOf?, runRound, runRoutes_processor, runHooks_processor]

theorem reportOf?_autowired :
    (pipeline.runRound sink build table state).1.reportOf? .autowired =
      some (pipeline.runInjectors sink table (pipeline.runHooks sink table build.hooks
        (pipeline.runRoutes sink table build.routes state).state).state).report := by
  simp [RoundOutcome.reportOf?, runRound, runRoutes_processor, runHooks_processor,
    runInjectors_processor]

end Reports

end Pipeline

section Main

variable {σ : Type} {inner : Sink σ} {pipeline : Pipeline} {processor : Processor}
  {build incoming : BuildState} {table other : SymbolTable}

/-- What a processor finds, and what it gives up over, does not depend on the sink. -/
theorem judgement_of_seenBy (carried : processor.Carries build incoming)
    (same : table.seenBy processor = other.seenBy processor) (sink : Sink σ)
    (state otherState : σ) : ∃ judgement : Report,
      ((pipeline.runRound sink build table state).1.reportOf? processor).map Report.judgement =
          some judgement ∧
        ((pipeline.runRound sink incoming other otherState).1.reportOf? processor).map
          Report.judgement = some judgement := by
  obtain ⟨routes, hooks⟩ := build
  obtain ⟨otherRoutes, otherHooks⟩ := incoming
  cases processor with
  | route =>
      obtain rfl : routes = otherRoutes := carried
      rw [Pipeline.reportOf?_route, Pipeline.reportOf?_route, Pipeline.runRoutes_congr same]
      simp only [Pipeline.report_runRoutes, Option.map_some]
      exact ⟨_, rfl, rfl⟩
  | interceptor =>
      obtain rfl : hooks = otherHooks := carried
      rw [Pipeline.reportOf?_interceptor, Pipeline.reportOf?_interceptor,
        Pipeline.runHooks_congr same]
      simp only [Pipeline.report_runHooks, Option.map_some]
      exact ⟨_, rfl, rfl⟩
  | autowired =>
      rw [Pipeline.reportOf?_autowired, Pipeline.reportOf?_autowired,
        Pipeline.runInjectors_congr same]
      simp only [Pipeline.report_runInjectors, Option.map_some]
      exact ⟨_, rfl, rfl⟩

theorem sameWork_of_seenBy {α : Type} {held : σ → String → α} (isolated : inner.Local held)
    (formed : build.routes.WellFormed) (otherFormed : incoming.routes.WellFormed)
    (carried : processor.Carries build incoming)
    (same : table.seenBy processor = other.seenBy processor) {state otherState : WriteOnce σ}
    (agree : WriteOnce.AgreeOn held pipeline.language processor state otherState) :
    SameWork held pipeline.language processor
      (pipeline.runRound (.writeOnce inner) build table state)
      (pipeline.runRound (.writeOnce inner) incoming other otherState) := by
  obtain ⟨routes, hooks⟩ := build
  obtain ⟨otherRoutes, otherHooks⟩ := incoming
  cases processor with
  | route =>
      obtain rfl : routes = otherRoutes := carried
      obtain ⟨report, kept, docs, states⟩ := Pipeline.runRoutes_own isolated same formed agree
      have afterHooks :=
        Pipeline.runHooks_other isolated states table other (by decide) hooks otherHooks
      refine ⟨?_, kept, fun _ => docs, ?_⟩
      · rw [Pipeline.reportOf?_route, Pipeline.reportOf?_route, report]
      · exact Pipeline.runInjectors_other isolated afterHooks table other (by decide)
  | interceptor =>
      obtain rfl : hooks = otherHooks := carried
      have afterRoutes :=
        Pipeline.runRoutes_other isolated agree table other (by decide) formed otherFormed
      obtain ⟨report, kept, states⟩ := Pipeline.runHooks_own isolated same hooks afterRoutes
      refine ⟨?_, kept, by simp, ?_⟩
      · rw [Pipeline.reportOf?_interceptor, Pipeline.reportOf?_interceptor, report]
      · exact Pipeline.runInjectors_other isolated states table other (by decide)
  | autowired =>
      have afterRoutes :=
        Pipeline.runRoutes_other isolated agree table other (by decide) formed otherFormed
      have afterHooks :=
        Pipeline.runHooks_other isolated afterRoutes table other (by decide) hooks otherHooks
      obtain ⟨report, states⟩ := Pipeline.runInjectors_own isolated same afterHooks
      refine ⟨?_, trivial, by simp, states⟩
      rw [Pipeline.reportOf?_autowired, Pipeline.reportOf?_autowired, report]

/-- Rounds over tables in which a processor sees the same do not differ in its work, whatever the
    other processors come to in them. -/
theorem undisturbed_of_sees (inner : Sink σ) (pipeline : Pipeline) (reachable : build.Reachable)
    (otherReachable : incoming.Reachable) (carried : processor.Carries build incoming)
    (same : table.declarations.map processor.sees = other.declarations.map processor.sees) :
    Undisturbed inner pipeline processor build incoming table other := by
  have seen := SymbolTable.seenBy_eq same
  constructor
  case judgement => exact judgement_of_seenBy carried seen _
  case first =>
    rintro rfl state
    obtain ⟨routes, hooks⟩ := build
    obtain ⟨otherRoutes, otherHooks⟩ := incoming
    obtain rfl : routes = otherRoutes := carried
    dsimp only
    rw [Pipeline.reportOf?_route, Pipeline.reportOf?_route]
    simp only [Pipeline.runRound, Pipeline.runRoutes_congr seen, and_self]
  case work =>
    intro α held isolated state otherState agree
    exact sameWork_of_seenBy isolated reachable.wellFormed_routes
      otherReachable.wellFormed_routes carried seen agree

end Main

section Disturbance

private def injected : Declaration :=
  { qualifiedName := "app.Page"
    properties := [{ name := "store", type := .named Contract.provider, wire := some {} }] }

/-- An interceptor, and a class with an injected field. -/
private def hooked : SymbolTable := .ofList [Moved.guard, injected]

private def unhooked : SymbolTable := .ofList [{ Moved.guard with marks := {} }, injected]

private theorem sees_unhooked : hooked.declarations.map (Processor.sees .autowired) =
    unhooked.declarations.map (Processor.sees .autowired) := by
  decide +kernel

private def nameless : Pipeline := ⟨{}, .kotlin⟩

private def refusingApp : Sink Store :=
  .refusing (fun key => if key.package = "app" then some "disk full" else none) .memory

/-- The work on an injected field is the same beside interceptors that are given up. -/
theorem undisturbed_of_hooked :
    BuildState.Reachable {} ∧ Processor.autowired.Carries {} {} ∧
      hooked.declarations.map (Processor.sees .autowired) =
        unhooked.declarations.map (Processor.sees .autowired) ∧
      Undisturbed refusingApp nameless .autowired {} {} hooked unhooked ∧
      SameWork (fun store path => store.get? path) .kotlin .autowired
        (nameless.runRound (.writeOnce refusingApp) {} hooked ⟨.empty, []⟩)
        (nameless.runRound (.writeOnce refusingApp) {} unhooked ⟨.empty, []⟩) ∧
      (nameless.runRound (.writeOnce refusingApp) {} hooked ⟨.empty, []⟩).1.reports.map
        Report.fatal = [none, some .missingModuleName, none] := by
  have undisturbed : Undisturbed refusingApp nameless .autowired {} {} hooked unhooked :=
    undisturbed_of_sees refusingApp nameless .start .start trivial sees_unhooked
  have work := undisturbed.work (Sink.local_memory.refusing _) (.refl ⟨.empty, []⟩)
  exact ⟨.start, trivial, sees_unhooked, undisturbed, work, by decide +kernel⟩

/-- A tree in which a file stands where a directory is asked for. -/
private def takenTree : FileTree := ({ } : FileTree).put ["f"] (.file "")

private def ontoTaken : Sink (WriteOnce FileTree) := .writeOnce (.files "a/../f")

private theorem reportOf?_hooked :
    (Moved.pipeline.runRound ontoTaken {} hooked ⟨takenTree, []⟩).1.reportOf? .autowired ≠
      (Moved.pipeline.runRound ontoTaken {} unhooked ⟨takenTree, []⟩).1.reportOf? .autowired := by
  have offer : Moved.pipeline.hookOffer hooked .empty = [(Moved.hooks 2).unit "app"] :=
    Moved.hookOffer_of_guard (by decide +kernel) (by decide +kernel) (by decide +kernel) rfl
  intro same
  have emitted := congrArg (Option.map Report.emitted) same
  rw [Pipeline.reportOf?_autowired, Pipeline.reportOf?_autowired, Option.map_some, Option.map_some,
    Pipeline.runInjectors_offer.2, Pipeline.runInjectors_offer.2, (Pipeline.runHooks_offer _).1,
    (Pipeline.runHooks_offer _).1, (Pipeline.runRoutes_offer _).1, (Pipeline.runRoutes_offer _).1,
    offer] at emitted
  revert emitted
  decide +kernel

/-- A sink with room for some units, whatever their paths. -/
private def roomy : Sink Nat where
  write
    | 0, unit => (.error (.sink unit.key.qualifiedName "full"), 0)
    | room + 1, _ => (.ok .written, room)

private def leaflet (marks : ClassMarks) : Declaration :=
  { qualifiedName := "app.Leaflet", marks }

/-- A class that cannot be navigated to, beside an interceptor. -/
private def routed : SymbolTable :=
  .ofList [leaflet { route := some { path := "/app/leaflet" } }, Moved.guard]

private def unrouted : SymbolTable := .ofList [leaflet {}, Moved.guard]

private theorem sees_unrouted : routed.declarations.map (Processor.sees .interceptor) =
    unrouted.declarations.map (Processor.sees .interceptor) := by
  decide +kernel

private theorem stagedRoutes_routed : routed.stagedRoutes .empty = .empty := by
  have found : resolvedOnes routed.routes =
      [leaflet { route := some { path := "/app/leaflet" } }] := by decide +kernel
  have kind : ∀ marks, routed.routeKind (leaflet marks) = .unknown := by
    intro marks
    rw [SymbolTable.routeKind, SymbolTable.firstMatch, SymbolTable.ancestors]
    change RouteKind.ofPlace (firstMatch (routed.walk _ []) _) = _
    rw [SymbolTable.walk_nil]
    rfl
  rw [SymbolTable.stagedRoutes, found]
  simp only [SymbolTable.extractRoutes, List.filterMap_cons, List.filterMap_nil,
    SymbolTable.extractRoute, kind, if_true]
  rfl

private theorem hooks_routed :
    (Moved.pipeline.runRound (.writeOnce roomy) {} routed ⟨2, []⟩).1.state.hooks ≠
      (Moved.pipeline.runRound (.writeOnce roomy) {} unrouted ⟨2, []⟩).1.state.hooks := by
  have offer : Moved.pipeline.hookOffer routed .empty = [(Moved.hooks 2).unit "app"] :=
    Moved.hookOffer_of_guard (by decide +kernel) (by decide +kernel) (by decide +kernel) rfl
  have otherOffer : Moved.pipeline.hookOffer unrouted .empty = [(Moved.hooks 2).unit "app"] :=
    Moved.hookOffer_of_guard (by decide +kernel) (by decide +kernel) (by decide +kernel) rfl
  have tables : Moved.pipeline.routeOffer routed .empty = RouteTable.empty.units "app" := by
    rw [Pipeline.routeOffer, stagedRoutes_routed]
    decide +kernel
  have found : resolvedOnes unrouted.hooks = [Moved.guard] := by decide +kernel
  have unknown : unrouted.resolve Contract.interceptor = none := by decide +kernel
  have fits : HookTable.empty.insert (Moved.hook 2) = .ok (Moved.hooks 2) := rfl
  obtain ⟨staged, sound⟩ := Moved.stagedHooks_of_guard found unknown fits
  intro same
  change (Pipeline.runHooks _ _ _ _ _).hooks = (Pipeline.runHooks _ _ _ _ _).hooks at same
  rw [Pipeline.hooks_runHooks, Pipeline.hooks_runHooks, (Pipeline.runHooks_offer _).2,
    (Pipeline.runHooks_offer _).2, (Pipeline.runRoutes_offer _).1, (Pipeline.runRoutes_offer _).1,
    offer, otherOffer, tables, SymbolTable.joinedHooks_of_sound sound, staged] at same
  revert same
  decide +kernel

/-- A sink that does not keep units apart lets one processor see the others. A directory that was
    made for an earlier unit changes how the file system refuses a later one, and the unit of the
    interceptors fails where those of the routes took the last room, so that they are not carried
    on. -/
theorem siblings_disturbed :
    (hooked.declarations.map (Processor.sees .autowired) =
        unhooked.declarations.map (Processor.sees .autowired) ∧
      (Moved.pipeline.runRound ontoTaken {} hooked ⟨takenTree, []⟩).1.reportOf? .autowired ≠
        (Moved.pipeline.runRound ontoTaken {} unhooked ⟨takenTree, []⟩).1.reportOf? .autowired) ∧
      (routed.declarations.map (Processor.sees .interceptor) =
          unrouted.declarations.map (Processor.sees .interceptor) ∧
        (Moved.pipeline.runRound (.writeOnce roomy) {} routed ⟨2, []⟩).1.state.hooks ≠
          (Moved.pipeline.runRound (.writeOnce roomy) {} unrouted ⟨2, []⟩).1.state.hooks) :=
  ⟨⟨sees_unhooked, reportOf?_hooked⟩, sees_unrouted, hooks_routed⟩

end Disturbance

end RouteAtlas
