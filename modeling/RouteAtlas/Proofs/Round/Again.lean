import RouteAtlas.Proofs.Hook.Insertion
import RouteAtlas.Proofs.Round.Found
import RouteAtlas.Proofs.Round.Offers
import RouteAtlas.Proofs.Sink.Digests

/-! # Rounds over again

What a round leaves behind depends on the sink only through what goes with the names of its units in
the end. The routes and interceptors that it takes over it finds again if it runs once more, and so
it offers the same units.
-/

namespace RouteAtlas

namespace SymbolTable

variable {table : SymbolTable}

theorem stagedRoutes_again {routes : RouteTable} (wellFormed : routes.WellFormed) :
    table.stagedRoutes (table.stagedRoutes routes) = table.stagedRoutes routes := by
  refine RouteTable.insertAll_again wellFormed ?_
  rw [accepted_extractRoutes]
  exact nodup_acceptedRoutes (distinct_resolvedOnes (distinct_filter table _))

theorem stagedHooks_again {hooks : HookTable} (wellFormed : hooks.WellFormed)
    (sound : (table.stagedHooks hooks).fatal = none) :
    (table.stagedHooks (table.stagedHooks hooks).table).fatal = none ∧
      (table.stagedHooks (table.stagedHooks hooks).table).table = (table.stagedHooks hooks).table := by
  have targets : ((table.acceptedHooks (resolvedOnes table.hooks)).map HookRecord.target).Nodup :=
    nodup_acceptedHooks (distinct_resolvedOnes (distinct_filter table _))
  exact takeHooks_of_ok (HookTable.insertAll_again wellFormed targets
    (fatal_takeHooks_eq_none_iff.mp sound))

theorem joinedHooks_of_fatal {hooks : HookTable} {error : BuildError}
    (clash : (table.stagedHooks hooks).fatal = some error) : table.joinedHooks hooks = hooks :=
  if_pos (by rw [clash]; rfl)

theorem joinedHooks_of_sound {hooks : HookTable} (sound : (table.stagedHooks hooks).fatal = none) :
    table.joinedHooks hooks = (table.stagedHooks hooks).table :=
  if_neg (by rw [sound]; exact Bool.false_ne_true)

section Joined

variable {hooks : HookTable} (wellFormed : hooks.WellFormed)
include wellFormed

theorem fatal_joinedHooks :
    (table.stagedHooks (table.joinedHooks hooks)).fatal = (table.stagedHooks hooks).fatal := by
  cases outcome : (table.stagedHooks hooks).fatal with
  | some error => rw [joinedHooks_of_fatal outcome, outcome]
  | none => rw [joinedHooks_of_sound outcome, (stagedHooks_again wellFormed outcome).1]

theorem joinedHooks_again : table.joinedHooks (table.joinedHooks hooks) = table.joinedHooks hooks := by
  cases outcome : (table.stagedHooks hooks).fatal with
  | some error => rw [joinedHooks_of_fatal outcome, joinedHooks_of_fatal outcome]
  | none =>
      obtain ⟨sound, same⟩ := stagedHooks_again wellFormed outcome
      rw [joinedHooks_of_sound outcome, joinedHooks_of_sound sound, same]

end Joined

end SymbolTable

/-- Names of the units that failed. -/
def Report.failures (report : Report) : List UnitKey :=
  report.emitted.failed.map Prod.fst

theorem Report.isClean_emitted (report : Report) :
    report.emitted.isClean = report.failures.isEmpty := by
  rw [failures, List.isEmpty_map]
  rfl

theorem Report.isClean_of_failures {report : Report} (failed : report.failures ≠ []) :
    report.emitted.isClean = false := by
  rw [isClean_emitted]
  exact Bool.eq_false_iff.mpr fun nothing => failed (List.isEmpty_iff.mp nothing)

/-- The processors of a round, each with the names of its units that failed. -/
def RoundOutcome.failures (outcome : RoundOutcome) : List (Processor × List UnitKey) :=
  outcome.reports.map fun report => (report.processor, report.failures)

namespace Pipeline

/-- The processors of a round, each with the units that it offers to the sink. -/
def partOffers (pipeline : Pipeline) (table : SymbolTable) (build : BuildState) :
    List (Processor × List GeneratedUnit) :=
  [(.route, pipeline.routeOffer table build.routes),
    (.interceptor, pipeline.hookOffer table build.hooks), (.autowired, injectorOffer table)]

section Offers

variable {pipeline : Pipeline} {table : SymbolTable}

theorem routeOffer_congr {routes others : RouteTable}
    (same : table.stagedRoutes routes = table.stagedRoutes others) :
    pipeline.routeOffer table routes = pipeline.routeOffer table others := by
  rw [routeOffer, routeOffer, same]

theorem hookOffer_joinedHooks {hooks : HookTable} (wellFormed : hooks.WellFormed) :
    pipeline.hookOffer table (table.joinedHooks hooks) = pipeline.hookOffer table hooks := by
  unfold hookOffer
  cases outcome : (table.stagedHooks hooks).fatal with
  | some error => rw [SymbolTable.joinedHooks_of_fatal outcome, outcome]
  | none =>
      obtain ⟨sound, same⟩ := SymbolTable.stagedHooks_again wellFormed outcome
      rw [SymbolTable.joinedHooks_of_sound outcome, sound, same]

end Offers

section Rounds

variable {σ : Type} {pipeline : Pipeline} {sink : Sink σ} {table : SymbolTable} {state : σ}

theorem runRoutes_processor (routes : RouteTable) :
    (pipeline.runRoutes sink table routes state).report.processor = .route := by
  unfold runRoutes writeRoutes
  grind

theorem runHooks_processor (hooks : HookTable) :
    (pipeline.runHooks sink table hooks state).report.processor = .interceptor := by
  unfold runHooks writeHooks
  grind

theorem runInjectors_processor :
    (pipeline.runInjectors sink table state).report.processor = .autowired := by
  unfold runInjectors
  grind

/-- The work on routes ends early for want of a module name only. -/
theorem fatal_runRoutes (routes : RouteTable) :
    (pipeline.runRoutes sink table routes state).report.fatal =
      if (resolvedOnes table.routes).isEmpty || !(pendingOnes table.routes).isEmpty ||
          pipeline.options.moduleName.isSome
        then none else some .missingModuleName := by
  unfold runRoutes writeRoutes BuildOptions.requireModuleName
  cases pipeline.options.moduleName <;> grind

/-- Of the work on interceptors a missing module name is the end, or two of one priority. -/
theorem fatal_runHooks_eq (hooks : HookTable) :
    (pipeline.runHooks sink table hooks state).report.fatal =
      if (resolvedOnes table.hooks).isEmpty then none
      else if pipeline.options.moduleName.isSome then (table.stagedHooks hooks).fatal
      else some .missingModuleName := by
  cases named : pipeline.options.moduleName with
  | none =>
      unfold runHooks BuildOptions.requireModuleName
      grind
  | some module =>
      rw [fatal_runHooks named]
      split
      · rename_i found
        rw [SymbolTable.stagedHooks, List.isEmpty_iff.mp found]
        rfl
      · rfl

theorem fatal_runInjectors :
    (pipeline.runInjectors sink table state).report.fatal =
      match SymbolTable.checkOwners (resolvedOnes table.owners) with
      | .error error => some error
      | .ok () => none := by
  unfold runInjectors
  cases found : (resolvedOnes table.owners).isEmpty with
  | true =>
      rw [List.isEmpty_iff.mp found]
      rfl
  | false =>
      simp only [found]
      cases SymbolTable.checkOwners (resolvedOnes table.owners) <;> rfl

end Rounds

section Settled

variable {σ : Type} {pipeline : Pipeline} {table : SymbolTable} {build : BuildState}
  {reason? : UnitKey → Option String} {inner : Sink σ} {state : WriteOnce σ}

/-- What was taken over on a condition is taken over again on a weaker one. -/
private theorem ite_again {α : Type} {stage : α → α} {before : α}
    (same : stage (stage before) = stage before) {first second : Bool}
    (more : first = true → second = true) :
    (if second then stage (if first then stage before else before)
      else if first then stage before else before) = if second then stage before else before := by
  cases second with
  | true => cases first <;> simp [same]
  | false => cases first <;> simp_all

/-- The build after a round, by the digests that go with the names of units in the end. Routes and
    interceptors join it if the units with their tables have these digests. -/
def settle (pipeline : Pipeline) (table : SymbolTable) (digest? : UnitKey → Option String)
    (build : BuildState) : BuildState where
  routes :=
    if (pipeline.options.moduleName.isSome || !(pendingOnes table.routes).isEmpty) &&
        (pipeline.language.disagreeing digest? (pipeline.routeOffer table build.routes)).isEmpty
      then table.stagedRoutes build.routes else build.routes
  hooks :=
    if pipeline.options.moduleName.isSome &&
        (pipeline.language.disagreeing digest? (pipeline.hookOffer table build.hooks)).isEmpty
      then table.joinedHooks build.hooks else build.hooks

/-- The units of a processor that fail are those that lack the digests of their names in the end. -/
theorem failures_runRound (accepts : inner.Accepts) :
    (pipeline.runRound (.guarded reason? inner) build table state).1.failures =
      (pipeline.partOffers table build).map fun offer => (offer.1, pipeline.language.disagreeing
        (pipeline.runRound (.guarded reason? inner) build table state).2.digest? offer.2) := by
  have failed : ∀ state units later,
      (pipeline.language.emit (.guarded reason? inner) state units).report.failed.map Prod.fst = _ :=
    fun _ => pipeline.language.failed_emit accepts
  rw [runRound_offer, roundOffer, List.append_assoc, Language.state_emit_append]
  simp only [RoundOutcome.failures, partOffers, runRound, List.map_cons, List.map_nil,
    Report.failures, runRoutes_processor, runHooks_processor, runInjectors_processor]
  rw [runInjectors_offer.2, (runHooks_offer _).1, (runHooks_offer _).2, (runRoutes_offer _).1,
    (runRoutes_offer _).2, failed _ _ (pipeline.hookOffer table build.hooks ++ injectorOffer table),
    failed _ _ (injectorOffer table), failed _ _ [], Language.state_emit_append]
  rfl

theorem state_runRound (accepts : inner.Accepts) :
    (pipeline.runRound (.guarded reason? inner) build table state).1.state =
      pipeline.settle table (pipeline.runRound (.guarded reason? inner) build table state).2.digest?
        build := by
  have failures : (pipeline.runRound (.guarded reason? inner) build table state).1.failures = _ :=
    failures_runRound accepts
  simp only [RoundOutcome.failures, partOffers, runRound, List.map_cons, List.map_nil,
    List.cons.injEq, Prod.mk.injEq, and_true] at failures ⊢
  obtain ⟨⟨-, routes⟩, ⟨-, hooks⟩, -⟩ := failures
  rw [settle, ← routes, ← hooks, routes_runRoutes, hooks_runHooks, Report.isClean_emitted,
    Report.isClean_emitted]

variable {digest? later? : UnitKey → Option String}

theorem routeOffer_settle (routes : build.routes.WellFormed) :
    pipeline.routeOffer table (pipeline.settle table digest? build).routes =
      pipeline.routeOffer table build.routes := by
  simp only [settle]
  split
  · exact routeOffer_congr (SymbolTable.stagedRoutes_again routes)
  · rfl

theorem hookOffer_settle (hooks : build.hooks.WellFormed) :
    pipeline.hookOffer table (pipeline.settle table digest? build).hooks =
      pipeline.hookOffer table build.hooks := by
  simp only [settle]
  split
  · exact hookOffer_joinedHooks hooks
  · rfl

theorem fatal_settle (hooks : build.hooks.WellFormed) :
    (table.stagedHooks (pipeline.settle table digest? build).hooks).fatal =
      (table.stagedHooks build.hooks).fatal := by
  simp only [settle]
  split
  · exact SymbolTable.fatal_joinedHooks hooks
  · rfl

section Twice

variable (routes : build.routes.WellFormed) (hooks : build.hooks.WellFormed)
include routes hooks

theorem partOffers_settle :
    pipeline.partOffers table (pipeline.settle table digest? build) =
      pipeline.partOffers table build := by
  rw [partOffers, partOffers, routeOffer_settle routes, hookOffer_settle hooks]

theorem roundOffer_settle :
    pipeline.roundOffer table (pipeline.settle table digest? build) =
      pipeline.roundOffer table build := by
  rw [roundOffer, roundOffer, routeOffer_settle routes, hookOffer_settle hooks]

/-- What was taken over is taken over again if more names are known. -/
theorem settle_settle
    (kept : ∀ key digest, digest? key = some digest → later? key = some digest) :
    pipeline.settle table later? (pipeline.settle table digest? build) =
      pipeline.settle table later? build := by
  have more : ∀ {take : Bool} {units : List GeneratedUnit},
      (take && (pipeline.language.disagreeing digest? units).isEmpty) = true →
        (take && (pipeline.language.disagreeing later? units).isEmpty) = true := by
    intro take units taken
    rw [Bool.and_eq_true] at taken ⊢
    exact ⟨taken.1, pipeline.language.disagreeing_mono kept taken.2⟩
  rw [settle, routeOffer_settle routes, hookOffer_settle hooks]
  simp only [settle]
  rw [ite_again (SymbolTable.stagedRoutes_again routes) more,
    ite_again (SymbolTable.joinedHooks_again hooks) more]

end Twice

end Settled

end Pipeline

end RouteAtlas
