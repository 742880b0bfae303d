import RouteAtlas.Proofs.Build.Reachable

/-! # A round that runs twice

A round that runs once more over the same declarations, on the sink that it has left behind, writes
nothing and comes to the same end, whatever failed in it. So does the end of a build.
-/

namespace RouteAtlas

/-- A second run comes to the end of the first, and nothing is written in it. -/
structure Repeats {σ : Type} (first second : RoundOutcome × WriteOnce σ) : Prop where
  state : second.1.state = first.1.state
  written : ∀ report ∈ second.1.reports, report.emitted.written = []
  failures : second.1.failures = first.1.failures
  fatal : second.1.fatalErrors = first.1.fatalErrors
  sink : second.2 = first.2

namespace Pipeline

variable {σ : Type} {pipeline : Pipeline} {table : SymbolTable} {build : BuildState}
  {inner : Sink σ} {state : WriteOnce σ}

/-- A round that offers only units with known names writes nothing. -/
theorem runRound_known
    (known : pipeline.language.Known state (pipeline.roundOffer table build)) :
    (pipeline.runRound (.writeOnce inner) build table state).2 = state ∧
      ∀ report ∈ (pipeline.runRound (.writeOnce inner) build table state).1.reports,
        report.emitted.written = [] := by
  obtain ⟨routesAndHooks, injectors⟩ := pipeline.language.known_append.mp known
  obtain ⟨routes, hooks⟩ := pipeline.language.known_append.mp routesAndHooks
  have nothing : ∀ units, pipeline.language.Known state units →
      (pipeline.language.emit (.writeOnce inner) state units).state = state ∧
        (pipeline.language.emit (.writeOnce inner) state units).report.written = [] :=
    fun _ => pipeline.language.emit_known
  refine ⟨by rw [runRound_offer, (nothing _ known).1], ?_⟩
  simp only [runRound, List.forall_mem_cons, List.not_mem_nil, false_imp_iff, implies_true, and_true]
  rw [runInjectors_offer.2, (runHooks_offer _).1, (runHooks_offer _).2, (runRoutes_offer _).1,
    (runRoutes_offer _).2, (nothing _ routes).1, (nothing _ hooks).1]
  exact ⟨(nothing _ routes).2, (nothing _ hooks).2, (nothing _ injectors).2⟩

theorem runRound_again (accepts : inner.Accepts) (routes : build.routes.WellFormed)
    (hooks : build.hooks.WellFormed) {first : RoundOutcome × WriteOnce σ}
    (ran : pipeline.runRound (.writeOnce inner) build table state = first) :
    Repeats first (pipeline.runRound (.writeOnce inner) first.1.state table first.2) := by
  rw [← Sink.guarded_none] at ran
  have settled : first.1.state = pipeline.settle table first.2.digest? build := by
    rw [← ran]
    exact state_runRound accepts
  have offer : pipeline.roundOffer table first.1.state = pipeline.roundOffer table build := by
    rw [settled, roundOffer_settle routes hooks]
  have known : pipeline.language.Known first.2 (pipeline.roundOffer table first.1.state) := by
    rw [offer, ← ran, runRound_offer, Sink.guarded_none]
    exact pipeline.language.known_emit accepts _
  have sink : (pipeline.runRound (.writeOnce inner) first.1.state table first.2).2 = first.2 :=
    (runRound_known known).1
  constructor
  case state =>
    rw [← Sink.guarded_none] at sink ⊢
    rw [state_runRound accepts, sink]
    conv_lhs => rw [settled]
    rw [settle_settle routes hooks fun _ _ => id, ← settled]
  case written => exact (runRound_known known).2
  case failures =>
    rw [← Sink.guarded_none] at sink ⊢
    rw [failures_runRound accepts, sink, ← ran, failures_runRound accepts, ran, settled,
      partOffers_settle routes hooks]
  case fatal =>
    have clash : (table.stagedHooks first.1.state.hooks).fatal =
        (table.stagedHooks build.hooks).fatal := by rw [settled, fatal_settle hooks]
    rw [← ran] at clash ⊢
    simp only [RoundOutcome.fatalErrors, runRound, List.filterMap_cons, List.filterMap_nil,
      runRoutes_processor, runHooks_processor, runInjectors_processor, fatal_runRoutes,
      fatal_runHooks_eq, fatal_runInjectors] at clash ⊢
    rw [clash]
  case sink => exact sink

section Finish

variable {sink : Sink σ} {last : σ}

theorem report_flushRoutes (routes : RouteTable) :
    (pipeline.flushRoutes sink routes last).report =
      { processor := .route
        emitted := (pipeline.language.emit sink last (pipeline.routeFlush routes)).report
        fatal := if routes.isEmpty || pipeline.options.moduleName.isSome then none
          else some .missingModuleName } := by
  unfold flushRoutes routeFlush BuildOptions.requireModuleName
  cases routes.isEmpty <;> cases pipeline.options.moduleName <;> rfl

theorem report_flushHooks (hooks : HookTable) :
    (pipeline.flushHooks sink hooks last).report =
      { processor := .interceptor
        emitted := (pipeline.language.emit sink last (pipeline.hookFlush hooks)).report
        fatal := if hooks.isEmpty || pipeline.options.moduleName.isSome then none
          else some .missingModuleName } := by
  unfold flushHooks hookFlush BuildOptions.requireModuleName
  cases hooks.isEmpty <;> cases pipeline.options.moduleName <;> rfl

theorem failures_finish {reason? : UnitKey → Option String} (accepts : inner.Accepts) :
    (pipeline.finish (.guarded reason? inner) build state).1.failures =
      [(.route, pipeline.language.disagreeing
          (pipeline.finish (.guarded reason? inner) build state).2.digest?
          (pipeline.routeFlush build.routes)),
        (.interceptor, pipeline.language.disagreeing
          (pipeline.finish (.guarded reason? inner) build state).2.digest?
          (pipeline.hookFlush build.hooks))] := by
  have failed : ∀ state units later,
      (pipeline.language.emit (.guarded reason? inner) state units).report.failed.map Prod.fst = _ :=
    fun _ => pipeline.language.failed_emit accepts
  rw [finish_offer, finishOffer, Language.state_emit_append]
  simp only [RoundOutcome.failures, finish, List.map_cons, List.map_nil, Report.failures,
    report_flushRoutes, report_flushHooks]
  rw [(flushRoutes_offer _).1, failed _ _ (pipeline.hookFlush build.hooks), failed _ _ []]
  rfl

theorem finish_known (known : pipeline.language.Known state (pipeline.finishOffer build)) :
    (pipeline.finish (.writeOnce inner) build state).2 = state ∧
      ∀ report ∈ (pipeline.finish (.writeOnce inner) build state).1.reports,
        report.emitted.written = [] := by
  obtain ⟨routes, hooks⟩ := pipeline.language.known_append.mp known
  have nothing : ∀ units, pipeline.language.Known state units →
      (pipeline.language.emit (.writeOnce inner) state units).state = state ∧
        (pipeline.language.emit (.writeOnce inner) state units).report.written = [] :=
    fun _ => pipeline.language.emit_known
  refine ⟨by rw [finish_offer, (nothing _ known).1], ?_⟩
  simp only [finish, List.forall_mem_cons, List.not_mem_nil, false_imp_iff, implies_true, and_true,
    report_flushRoutes, report_flushHooks]
  rw [(flushRoutes_offer _).1, (nothing _ routes).1]
  exact ⟨(nothing _ routes).2, (nothing _ hooks).2⟩

theorem finish_again (accepts : inner.Accepts) {first : RoundOutcome × WriteOnce σ}
    (ran : pipeline.finish (.writeOnce inner) build state = first) :
    Repeats first (pipeline.finish (.writeOnce inner) first.1.state first.2) := by
  have kept : first.1.state = build := by
    rw [← ran]
    rfl
  have known : pipeline.language.Known first.2 (pipeline.finishOffer first.1.state) := by
    rw [kept, ← ran, finish_offer]
    exact pipeline.language.known_emit accepts _
  have sink : (pipeline.finish (.writeOnce inner) first.1.state first.2).2 = first.2 :=
    (finish_known known).1
  constructor
  case state => rfl
  case written => exact (finish_known known).2
  case failures =>
    rw [← Sink.guarded_none] at sink ran ⊢
    rw [failures_finish accepts, sink, kept, ← ran, failures_finish accepts]
  case fatal =>
    rw [kept, ← ran]
    simp only [RoundOutcome.fatalErrors, finish, List.filterMap_cons, List.filterMap_nil,
      report_flushRoutes, report_flushHooks]
  case sink => exact sink

end Finish

end Pipeline

/-- Whatever a build has come to, to run a round or the end of the build once more changes nothing. -/
theorem repeats_of_reachable {build : BuildState} (reachable : build.Reachable)
    (pipeline : Pipeline) (table : SymbolTable) (state : WriteOnce Store) :
    let first := pipeline.runRound (.writeOnce .memory) build table state
    let last := pipeline.finish (.writeOnce .memory) build state
    Repeats first (pipeline.runRound (.writeOnce .memory) first.1.state table first.2) ∧
      Repeats last (pipeline.finish (.writeOnce .memory) last.1.state last.2) :=
  ⟨Pipeline.runRound_again Sink.accepts_memory reachable.wellFormed_routes
    reachable.wellFormed_hooks rfl, Pipeline.finish_again Sink.accepts_memory rfl⟩

/-- An interceptor that moves is written once. -/
theorem repeats_of_moved :
    let first := Moved.pipeline.runRound (.writeOnce .memory) Moved.build Moved.table ⟨.empty, []⟩
    let last := Moved.pipeline.finish (.writeOnce .memory) Moved.build ⟨.empty, []⟩
    Moved.build.Reachable ∧
      (first.1.reports.map fun report => report.emitted.written) =
        [[], [.interceptors "app"], []] ∧
      Repeats first (Moved.pipeline.runRound (.writeOnce .memory) first.1.state Moved.table first.2) ∧
      (last.1.reports.map fun report => report.emitted.written) = [[], [.interceptors "app"]] ∧
      Repeats last (Moved.pipeline.finish (.writeOnce .memory) last.1.state last.2) := by
  intro first last
  have repeats :=
    repeats_of_reachable Moved.reachable_build Moved.pipeline Moved.table ⟨.empty, []⟩
  have written : (first.1.reports.map Report.emitted).map EmitReport.written =
      [[], [.interceptors "app"], []] := by
    rw [Moved.emitted_reports]
    decide +kernel
  rw [List.map_map] at written
  exact ⟨Moved.reachable_build, written, repeats.1, by decide +kernel, repeats.2⟩

end RouteAtlas
