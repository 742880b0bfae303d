import RouteAtlas.Proofs.Build.CleanRun
import RouteAtlas.Proofs.Diagnostic
import RouteAtlas.Proofs.Round.Siblings

/-! # Builds of a module without a name

Tables need the name of their module. Without one no table is written and no interceptor is kept;
routes that were held back are carried on, so that the end of the build asks for the name at last.
-/

namespace RouteAtlas

/-- Through a write-once sink nothing passes that was not offered to it. -/
theorem Sink.exists_passed {σ : Type} (inner : Sink σ) (state : WriteOnce σ)
    (offered : List RenderedUnit) :
    ∃ passed ⊆ offered,
      ((writeOnce inner).writeAll state offered).inner = inner.writeAll state.inner passed := by
  induction offered generalizing state with
  | nil => exact ⟨[], List.Subset.refl _, rfl⟩
  | cons unit rest ih =>
      rw [writeAll_cons]
      obtain ⟨passed, subset, after⟩ := ih ((writeOnce inner).write state unit).2
      cases known : state.digest? unit.key with
      | some digest =>
          rw [write_known known] at after ⊢
          exact ⟨passed, List.subset_cons_of_subset _ subset, after⟩
      | none =>
          have below : ((writeOnce inner).write state unit).2.inner =
              (inner.write state.inner unit).2 := by
            rw [WriteOnce.digest?] at known
            simp only [writeOnce, known]
            split <;> simp [*]
          rw [below] at after
          exact ⟨unit :: passed, List.cons_subset_cons _ subset, after⟩

/-- A processor gave up for want of a module name, and it was said which argument sets it. -/
structure RoundOutcome.LacksModule (outcome : RoundOutcome) (processor : Processor) : Prop where
  fatal : ∃ report, outcome.reportOf? processor = some report ∧
    report.fatal = some .missingModuleName
  said : outcome.log.holds .error Contract.moduleKey = true

/-- The advice on a missing module name tells the argument that sets it. -/
theorem holds_of_failureLog {log : Diagnostics} (within : failureLog .missingModuleName ⊆ log) :
    log.holds .error Contract.moduleKey = true := by
  have advised : (⟨.error, Contract.moduleAdvice, none⟩ : Diagnostic) ∈ log :=
    within (by decide +kernel)
  have mentioned : Text.contains Contract.moduleAdvice Contract.moduleKey = true := by
    decide +kernel
  exact Diagnostics.holds_iff.mpr ⟨_, advised, rfl, mentioned⟩

namespace Pipeline

variable {σ : Type} {pipeline : Pipeline} {sink : Sink σ} {table : SymbolTable}
  {build : BuildState} {state : σ}

section Unnamed

variable (unnamed : pipeline.options.moduleName = none)
include unnamed

theorem roundOffer_unnamed : pipeline.roundOffer table build = injectorOffer table := by
  simp [roundOffer, routeOffer, hookOffer, unnamed]

theorem finishOffer_unnamed : pipeline.finishOffer build = [] := by
  simp [finishOffer, routeFlush, hookFlush, unnamed]

theorem hooks_unnamed :
    (pipeline.runRound sink build table state).1.state.hooks = build.hooks := by
  rw [runRound, hooks_runHooks, unnamed]
  rfl

theorem lacksModule_of_hooks (found : resolvedOnes table.hooks ≠ []) :
    (pipeline.runRound sink build table state).1.LacksModule .interceptor where
  fatal := by
    refine ⟨_, reportOf?_interceptor, ?_⟩
    rw [fatal_runHooks_eq, unnamed, if_neg (by simpa using found)]
    rfl
  said := by
    have here : ∀ last, failureLog .missingModuleName ⊆
        (pipeline.runHooks sink table build.hooks last).log := by
      intro last
      simp only [runHooks, BuildOptions.requireModuleName, unnamed, List.isEmpty_iff, found]
      exact List.subset_append_right _ _
    exact holds_of_failureLog
      (List.subset_append_of_subset_left _ (List.subset_append_of_subset_right _ (here _)))

theorem lacksModule_of_routes (found : resolvedOnes table.routes ≠ [])
    (settled : pendingOnes table.routes = []) :
    (pipeline.runRound sink build table state).1.LacksModule .route where
  fatal := by
    refine ⟨_, reportOf?_route, ?_⟩
    rw [fatal_runRoutes, unnamed, settled]
    simp [found]
  said := by
    have here : failureLog .missingModuleName ⊆
        (pipeline.runRoutes sink table build.routes state).log := by
      simp only [runRoutes, writeRoutes, BuildOptions.requireModuleName, unnamed, settled,
        List.isEmpty_iff, found]
      exact List.subset_append_right _ _
    exact holds_of_failureLog
      (List.subset_append_of_subset_left _ (List.subset_append_of_subset_left _ here))

theorem lacksModule_of_held (held : build.routes.isEmpty = false) :
    (pipeline.finish sink build state).1.LacksModule .route where
  fatal := by
    simp [finish, flushRoutes, held, BuildOptions.requireModuleName, unnamed,
      RoundOutcome.reportOf?]
  said := by
    have here : failureLog .missingModuleName =
        (pipeline.flushRoutes sink build.routes state).log := by
      simp [flushRoutes, held, BuildOptions.requireModuleName, unnamed]
    apply holds_of_failureLog
    rw [here]
    exact List.subset_append_left _ _

end Unnamed

end Pipeline

/-- A rendered unit is the injector of a class of one of the tables. -/
def Pipeline.IsInjector (pipeline : Pipeline) (tables : List SymbolTable) (unit : RenderedUnit) :
    Prop :=
  ∃ table ∈ tables, ∃ plan ∈ table.plans, pipeline.language.render plan.unit = .ok unit

theorem Pipeline.isInjector_of_mem {pipeline : Pipeline} {tables : List SymbolTable}
    {unit : RenderedUnit}
    (member : unit ∈ pipeline.language.renderAll (tables.flatMap injectorOffer)) :
    pipeline.IsInjector tables unit := by
  obtain ⟨source, listed, made⟩ := pipeline.language.mem_renderAll.mp member
  obtain ⟨table, tableIn, offered⟩ := List.mem_flatMap.mp listed
  unfold injectorOffer at offered
  split at offered
  · cases offered
  · obtain ⟨plan, planIn, rfl⟩ := List.mem_map.mp offered
    exact ⟨table, tableIn, plan, planIn, made⟩

/-- What comes of the build of a module without a name. -/
structure Unnamed {σ : Type} (pipeline : Pipeline) (inner : Sink σ) (start : WriteOnce σ)
    (tables : List SymbolTable) (run : BuildRun (WriteOnce σ)) : Prop where
  /-- There is an outcome for each round and one for the end. -/
  rounds : run.outcomes.length = tables.length + 1
  /-- The rounds offer injectors to the sink, and the end offers nothing. -/
  state : run.state = (pipeline.language.emit (.writeOnce inner) start
    (tables.flatMap Pipeline.injectorOffer)).state
  hooks : run.build.hooks = .empty ∧ ∀ outcome ∈ run.outcomes, outcome.state.hooks = .empty
  interceptors : ∀ round ∈ tables.zip run.outcomes, resolvedOnes round.1.hooks ≠ [] →
    round.2.LacksModule .interceptor
  routes : ∀ round ∈ tables.zip run.outcomes, resolvedOnes round.1.routes ≠ [] →
    pendingOnes round.1.routes = [] → round.2.LacksModule .route
  /-- Routes that are carried to the end are asked about there. -/
  held : run.build.routes.isEmpty = false →
    ∃ last, run.outcomes.getLast? = some last ∧ last.LacksModule .route

theorem unnamed_runBuild {σ : Type} {pipeline : Pipeline} {inner : Sink σ}
    (unnamed : pipeline.options.moduleName = none) (tables : List SymbolTable)
    {build : BuildState} (fresh : build.hooks = .empty) (start : WriteOnce σ) :
    Unnamed pipeline inner start tables
      (pipeline.runBuild (.writeOnce inner) build start tables) := by
  induction tables generalizing build start with
  | nil =>
      constructor
      case rounds => rfl
      case state =>
        change (pipeline.finish _ _ _).2 = _
        rw [Pipeline.finish_offer, Pipeline.finishOffer_unnamed unnamed]
        rfl
      case hooks => exact ⟨fresh, fun outcome member => List.mem_singleton.mp member ▸ fresh⟩
      case interceptors => exact fun round nothing => absurd nothing List.not_mem_nil
      case routes => exact fun round nothing => absurd nothing List.not_mem_nil
      case held => exact fun held => ⟨_, rfl, Pipeline.lacksModule_of_held unnamed held⟩
  | cons table rest ih =>
      have after : (pipeline.runRound (.writeOnce inner) build table start).1.state.hooks = .empty :=
        (Pipeline.hooks_unnamed unnamed).trans fresh
      have others := ih after (pipeline.runRound (.writeOnce inner) build table start).2
      constructor
      case rounds => exact congrArg Nat.succ others.rounds
      case state =>
        refine others.state.trans ?_
        rw [Pipeline.runRound_offer, Pipeline.roundOffer_unnamed unnamed,
          ← Language.state_emit_append, List.flatMap_cons]
      case hooks =>
        exact ⟨others.hooks.1, List.forall_mem_cons.mpr ⟨after, others.hooks.2⟩⟩
      case interceptors =>
        exact List.forall_mem_cons.mpr
          ⟨Pipeline.lacksModule_of_hooks unnamed, others.interceptors⟩
      case routes =>
        exact List.forall_mem_cons.mpr ⟨Pipeline.lacksModule_of_routes unnamed, others.routes⟩
      case held =>
        intro held
        obtain ⟨last, ends, lacks⟩ := others.held held
        exact ⟨last, List.mem_getLast?_cons ends, lacks⟩

/-- Whatever a build of a module without a name is given, the sink below ends up with injectors only,
    and every want of the name is reported: in a round that has interceptors, or whose routes are
    all known, and at the end if there are routes then. -/
theorem reported_of_unnamed {pipeline : Pipeline} (unnamed : pipeline.options.moduleName = none)
    (tables : List SymbolTable) :
    (∀ {σ : Type} (inner : Sink σ) (start : σ),
      let run := pipeline.runBuild (.writeOnce inner) {} ⟨start, []⟩ tables
      Unnamed pipeline inner ⟨start, []⟩ tables run ∧
        ∃ passed : List RenderedUnit, run.state.inner = inner.writeAll start passed ∧
          ∀ unit ∈ passed, pipeline.IsInjector tables unit) ∧
      ∀ unit ∈ (pipeline.runBuild (.writeOnce .memory) {} ⟨.empty, []⟩ tables).state.inner.values,
        pipeline.IsInjector tables unit := by
  have written : ∀ {σ : Type} (inner : Sink σ) (start : σ),
      ∃ passed : List RenderedUnit,
        (pipeline.runBuild (.writeOnce inner) {} ⟨start, []⟩ tables).state.inner =
          inner.writeAll start passed ∧ ∀ unit ∈ passed, pipeline.IsInjector tables unit := by
    intro σ inner start
    rw [(unnamed_runBuild unnamed tables rfl ⟨start, []⟩).state, Language.state_emit]
    obtain ⟨passed, subset, after⟩ := inner.exists_passed ⟨start, []⟩
      (pipeline.language.renderAll (tables.flatMap Pipeline.injectorOffer))
    exact ⟨passed, after, fun unit member => Pipeline.isInjector_of_mem (subset member)⟩
  refine ⟨fun inner start => ⟨unnamed_runBuild unnamed tables rfl _, written inner start⟩, ?_⟩
  obtain ⟨passed, after, injectors⟩ := written .memory .empty
  rw [after]
  exact fun unit member => injectors unit (Sink.mem_of_mem_values_memory member)

section Waiting

private def lobbyPipeline : Pipeline :=
  { options := {} }

private def lobbyPage : Declaration :=
  { qualifiedName := "app.Lobby"
    supertypes := [.named Contract.activity]
    marks := { route := some { path := "/main/lobby" } } }

/-- A page and an interceptor, beside a page that is put off. -/
private def waiting : SymbolTable :=
  .ofList [lobbyPage, Moved.guard,
    { qualifiedName := "app.Late", marks := { route := some { path := "/main/late" } }
      resolved := false }]

private theorem isEmpty_waiting : (waiting.stagedRoutes .empty).isEmpty = false := by
  have found : resolvedOnes waiting.routes = [lobbyPage] := by decide +kernel
  have kind : waiting.routeKind lobbyPage = .screen := by
    rw [SymbolTable.routeKind, SymbolTable.firstMatch_of_unknown rfl (by decide) rfl]
    decide
  have extracted : waiting.extractRoute lobbyPage =
      .ok { path := "/main/lobby", kind := .screen, target := .named "app.Lobby" } := by
    rw [SymbolTable.extractRoute, kind]
    rfl
  rw [SymbolTable.stagedRoutes, found]
  simp only [SymbolTable.extractRoutes, List.filterMap_cons, extracted, Except.toOption,
    List.filterMap_nil]
  decide

/-- The interceptor is refused in its round; the page is carried on to the end, and refused there. -/
theorem reported_of_waiting :
    let run := lobbyPipeline.runBuild (.writeOnce .memory) {} ⟨.empty, []⟩ [waiting]
    lobbyPipeline.options.moduleName = none ∧
      Unnamed lobbyPipeline .memory ⟨.empty, []⟩ [waiting] run ∧
      (∃ first, run.outcomes.head? = some first ∧ first.LacksModule .interceptor) ∧
      ∃ last, run.outcomes.getLast? = some last ∧ last.LacksModule .route := by
  intro run
  have unnamed : lobbyPipeline.options.moduleName = none := rfl
  obtain ⟨law, -⟩ := (reported_of_unnamed unnamed [waiting]).1 Sink.memory .empty
  have hooked : resolvedOnes waiting.hooks ≠ [] := by decide +kernel
  have unsettled : (pendingOnes waiting.routes).isEmpty = false := by decide +kernel
  have nothing : lobbyPipeline.routeOffer waiting .empty = [] := by
    simp [Pipeline.routeOffer, unsettled]
  have clean : (lobbyPipeline.runRoutes (.writeOnce .memory) waiting .empty
      ⟨.empty, []⟩).report.emitted.isClean = true := by
    rw [(Pipeline.runRoutes_offer _).2, nothing]
    rfl
  have held : run.build.routes = waiting.stagedRoutes .empty := by
    change (lobbyPipeline.runRoutes _ _ _ _).routes = _
    rw [Pipeline.routes_runRoutes, unsettled, clean]
    rfl
  exact ⟨unnamed, law, ⟨_, rfl, law.interceptors _ List.mem_cons_self hooked⟩,
    law.held (by rw [held]; exact isEmpty_waiting)⟩

end Waiting

end RouteAtlas
