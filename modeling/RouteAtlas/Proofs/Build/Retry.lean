import RouteAtlas.Proofs.Build.Reachable
import RouteAtlas.Proofs.Delivery.Injectors

/-! # A round that is tried again

A round some of whose units were refused may be run once more when nothing is refused any longer. The
build and the sources stored are then those of a round that was never refused.
-/

namespace RouteAtlas

namespace Pipeline

section State

variable {σ : Type} {pipeline : Pipeline} {table : SymbolTable} {build : BuildState}
  {reason? : UnitKey → Option String} {inner : Sink σ} {state : WriteOnce σ}
  {refused again once : RoundOutcome × WriteOnce σ}

/-- A second run offers the units of the first one to the sink. -/
theorem offered_again (accepts : inner.Accepts) (routes : build.routes.WellFormed)
    (hooks : build.hooks.WellFormed)
    (ran : pipeline.runRound (.guarded reason? inner) build table state = refused) :
    refused.2 = (Sink.guarded reason? inner).writeAll state
        (pipeline.language.renderAll (pipeline.roundOffer table build)) ∧
      (pipeline.runRound (.writeOnce inner) refused.1.state table refused.2).2 =
        (Sink.writeOnce inner).writeAll refused.2
          (pipeline.language.renderAll (pipeline.roundOffer table build)) := by
  constructor
  · rw [← ran, runRound_offer, Language.state_emit]
  · rw [runRound_offer, Language.state_emit]
    congr 2
    rw [← ran, state_runRound accepts, roundOffer_settle routes hooks]

theorem digests_retry (accepts : inner.Accepts) (routes : build.routes.WellFormed)
    (hooks : build.hooks.WellFormed)
    (ran : pipeline.runRound (.guarded reason? inner) build table state = refused) :
    (pipeline.runRound (.writeOnce inner) refused.1.state table refused.2).2.digest? =
      (pipeline.runRound (.writeOnce inner) build table state).2.digest? := by
  obtain ⟨left, after⟩ := offered_again accepts routes hooks ran
  funext key
  rw [after, left, Sink.digest?_retry accepts, runRound_offer, Language.state_emit]

theorem state_retry (accepts : inner.Accepts) (routes : build.routes.WellFormed)
    (hooks : build.hooks.WellFormed)
    (ran : pipeline.runRound (.guarded reason? inner) build table state = refused) :
    (pipeline.runRound (.writeOnce inner) refused.1.state table refused.2).1.state =
      (pipeline.runRound (.writeOnce inner) build table state).1.state := by
  have digests := digests_retry accepts routes hooks ran
  obtain ⟨left, after⟩ := offered_again accepts routes hooks ran
  have kept : ∀ key digest, refused.2.digest? key = some digest →
      (pipeline.runRound (.writeOnce inner) refused.1.state table refused.2).2.digest? key =
        some digest := by
    intro key digest known
    rw [after, ← Sink.guarded_none, Sink.digest?_writeAll accepts, known, Option.some_or]
  have settled : refused.1.state = pipeline.settle table refused.2.digest? build := by
    rw [← ran, state_runRound accepts]
  rw [← Sink.guarded_none] at kept digests ⊢
  calc (pipeline.runRound (.guarded (fun _ => none) inner) refused.1.state table refused.2).1.state
    _ = pipeline.settle table _ refused.1.state := state_runRound accepts
    _ = pipeline.settle table _ (pipeline.settle table refused.2.digest? build) :=
      congrArg (pipeline.settle table _) settled
    _ = pipeline.settle table _ build := settle_settle routes hooks kept
    _ = pipeline.settle table _ build := by rw [digests]
    _ = (pipeline.runRound (.guarded (fun _ => none) inner) build table state).1.state :=
      (state_runRound accepts).symm

/-- Of what is refused no trace is left. -/
theorem digest?_refused (accepts : inner.Accepts) {key : UnitKey} (barred : (reason? key).isSome = true) :
    (pipeline.runRound (.guarded reason? inner) build table state).2.digest? key =
      state.digest? key := by
  rw [runRound_offer, Language.state_emit, Sink.digest?_writeAll accepts, Sink.digestOf?, if_pos barred,
    Option.or_none]

/-- A unit that is refused, and was not written before, fails. -/
theorem failure_of_refused (accepts : inner.Accepts) {offer : Processor × List GeneratedUnit}
    (part : offer ∈ pipeline.partOffers table build) {unit : GeneratedUnit} (member : unit ∈ offer.2)
    (barred : (reason? unit.key).isSome = true) (fresh : state.digest? unit.key = none) :
    ∃ failed, (offer.1, failed) ∈
        (pipeline.runRound (.guarded reason? inner) build table state).1.failures ∧
      unit.key ∈ failed := by
  rw [failures_runRound accepts]
  refine ⟨_, List.mem_map_of_mem part, pipeline.language.mem_disagreeing member ?_⟩
  rw [digest?_refused accepts barred, fresh]

section Failures

variable {sink : Sink σ} {last : σ} {failed : List UnitKey} (some_failed : failed ≠ [])
include some_failed

/-- A round in which a table of the routes fails leaves the routes as they are. -/
theorem routes_of_failures
    (reported : (.route, failed) ∈ (pipeline.runRound sink build table last).1.failures) :
    (pipeline.runRound sink build table last).1.state.routes = build.routes := by
  simp only [RoundOutcome.failures, runRound, List.map_cons, List.map_nil, runRoutes_processor,
    runHooks_processor, runInjectors_processor] at reported ⊢
  obtain rfl : failed = _ := by simpa using reported
  rw [routes_runRoutes, Report.isClean_of_failures some_failed, Bool.and_false]
  rfl

theorem hooks_of_failures
    (reported : (.interceptor, failed) ∈ (pipeline.runRound sink build table last).1.failures) :
    (pipeline.runRound sink build table last).1.state.hooks = build.hooks := by
  simp only [RoundOutcome.failures, runRound, List.map_cons, List.map_nil, runRoutes_processor,
    runHooks_processor, runInjectors_processor] at reported ⊢
  obtain rfl : failed = _ := by simpa using reported
  rw [hooks_runHooks, Report.isClean_of_failures some_failed, Bool.and_false]
  rfl

end Failures

end State

section Stored

variable {pipeline : Pipeline} {table : SymbolTable} {build : BuildState}

theorem isTableKey_of_mem_offers (routes : build.routes.WellFormed) {unit : GeneratedUnit}
    (member : unit ∈ pipeline.routeOffer table build.routes ++ pipeline.hookOffer table build.hooks) :
    ∃ module, IsTableKey module unit.key := by
  cases named : pipeline.options.moduleName with
  | none => simp [routeOffer, hookOffer, named] at member
  | some module =>
      rcases List.mem_append.mp member with ofRoutes | ofHooks
      · exact ⟨module, .inl (isRouteKey_of_mem_routeOffer named routes ofRoutes)⟩
      · exact ⟨module, .inr (key_of_mem_hookOffer named ofHooks)⟩

theorem exists_owner_of_mem_injectorOffer {unit : GeneratedUnit}
    (member : unit ∈ injectorOffer table) :
    ∃ owner ∈ table.declarations, unit.key = .injector owner.asType := by
  unfold injectorOffer at member
  split at member
  · cases member
  · obtain ⟨plan, made, rfl⟩ := List.mem_map.mp member
    obtain ⟨owner, found, target⟩ := SymbolTable.mem_plansOf made
    have listed := SymbolTable.mem_owners.mp (List.mem_filter.mp found).1
    exact ⟨owner, listed.1, congrArg UnitKey.injector target⟩

/-- The names of the units of a round have no slashes if those of its classes have none. -/
theorem plain_of_mem_roundOffer (routes : build.routes.WellFormed)
    (plain : ∀ decl ∈ table.declarations, '/' ∉ decl.qualifiedName.toList) {unit : GeneratedUnit}
    (member : unit ∈ pipeline.roundOffer table build) : unit.key.Plain := by
  rcases List.mem_append.mp member with ofTables | ofInjectors
  · obtain ⟨module, isTable⟩ := isTableKey_of_mem_offers routes ofTables
    exact isTable.plain
  · obtain ⟨owner, listed, key⟩ := exists_owner_of_mem_injectorOffer ofInjectors
    rw [key]
    exact UnitKey.plain_injector (plain owner listed)

theorem stored_retry (routes : build.routes.WellFormed) (hooks : build.hooks.WellFormed)
    (plain : ∀ decl ∈ table.declarations, '/' ∉ decl.qualifiedName.toList)
    {reason? : UnitKey → Option String} {state : WriteOnce Store}
    {refused : RoundOutcome × WriteOnce Store}
    (ran : pipeline.runRound (.guarded reason? .memory) build table state = refused) :
    (pipeline.runRound (.writeOnce .memory) refused.1.state table refused.2).2.inner =
      (pipeline.runRound (.writeOnce .memory) build table state).2.inner := by
  have apart : ∀ unit ∈ pipeline.language.renderAll (pipeline.roundOffer table build),
      ∀ other ∈ pipeline.language.renderAll (pipeline.roundOffer table build),
        unit.path = other.path ↔ unit.key = other.key := by
    intro unit member other otherIn
    obtain ⟨source, offered, made⟩ := pipeline.language.mem_renderAll.mp member
    obtain ⟨otherSource, otherOffered, otherMade⟩ := pipeline.language.mem_renderAll.mp otherIn
    obtain ⟨key, path, -⟩ := Language.render_eq_ok made
    obtain ⟨otherKey, otherPath, -⟩ := Language.render_eq_ok otherMade
    rw [key, path, otherKey, otherPath]
    exact ⟨UnitKey.path_injective_of_plain (plain_of_mem_roundOffer routes plain offered)
      (plain_of_mem_roundOffer routes plain otherOffered), congrArg (UnitKey.path · _)⟩
  obtain ⟨left, after⟩ := offered_again Sink.accepts_memory routes hooks ran
  rw [after, left, Sink.inner_retry apart, runRound_offer, Language.state_emit]

end Stored

end Pipeline

/-- What a round leaves behind of which units were refused, and what the same round leaves behind
    that runs after it, compared with a round that was never refused. -/
structure Retried (pipeline : Pipeline) (table : SymbolTable) (build : BuildState)
    (before : WriteOnce Store) (reason? : UnitKey → Option String)
    (refused again once : RoundOutcome × WriteOnce Store) : Prop where
  state : again.1.state = once.1.state
  stored : again.2.inner = once.2.inner
  digests : again.2.digest? = once.2.digest?
  /-- A unit that is refused, and was not written before, is among those that fail. -/
  fails : ∀ offer ∈ pipeline.partOffers table build, ∀ unit ∈ offer.2,
    (reason? unit.key).isSome = true → before.digest? unit.key = none →
      ∃ failed, (offer.1, failed) ∈ refused.1.failures ∧ unit.key ∈ failed
  routes : ∀ failed ≠ [], (.route, failed) ∈ refused.1.failures →
    refused.1.state.routes = build.routes
  hooks : ∀ failed ≠ [], (.interceptor, failed) ∈ refused.1.failures →
    refused.1.state.hooks = build.hooks
  /-- Of what was refused no trace is left in the sink. -/
  untraced : ∀ key, (reason? key).isSome = true → refused.2.digest? key = before.digest? key

/-- A round can be tried again after any of its units were refused. -/
theorem retried_of_reachable {build : BuildState} (reachable : build.Reachable)
    (pipeline : Pipeline) {table : SymbolTable}
    (plain : ∀ decl ∈ table.declarations, '/' ∉ decl.qualifiedName.toList)
    (state : WriteOnce Store) (reason? : UnitKey → Option String) :
    let refused := pipeline.runRound (.writeOnce (.refusing reason? .memory)) build table state
    Retried pipeline table build state reason? refused
      (pipeline.runRound (.writeOnce .memory) refused.1.state table refused.2)
      (pipeline.runRound (.writeOnce .memory) build table state) := by
  intro refused
  have routes := reachable.wellFormed_routes
  have hooks := reachable.wellFormed_hooks
  constructor
  case state => exact Pipeline.state_retry Sink.accepts_memory routes hooks rfl
  case stored => exact Pipeline.stored_retry routes hooks plain rfl
  case digests => exact Pipeline.digests_retry Sink.accepts_memory routes hooks rfl
  case fails => exact fun _ part _ => Pipeline.failure_of_refused Sink.accepts_memory part
  case routes => exact fun _ => Pipeline.routes_of_failures
  case hooks => exact fun _ => Pipeline.hooks_of_failures
  case untraced => exact fun _ => Pipeline.digest?_refused Sink.accepts_memory

/-- The table of an interceptor that moves is refused, and written when the round is tried again. -/
theorem retried_of_moved :
    let reason? := fun key => if key = UnitKey.interceptors "app" then some "disk full" else none
    let refused := Moved.pipeline.runRound (.writeOnce (.refusing reason? .memory)) Moved.build
      Moved.table ⟨.empty, []⟩
    let again := Moved.pipeline.runRound (.writeOnce .memory) refused.1.state Moved.table refused.2
    let once := Moved.pipeline.runRound (.writeOnce .memory) Moved.build Moved.table ⟨.empty, []⟩
    Moved.build.Reachable ∧ (∀ decl ∈ Moved.table.declarations, '/' ∉ decl.qualifiedName.toList) ∧
      refused.1.reports.map Report.failures = [[], [.interceptors "app"], []] ∧
      (once.1.reports.map fun report => report.emitted.written) = [[], [.interceptors "app"], []] ∧
      Retried Moved.pipeline Moved.table Moved.build ⟨.empty, []⟩ reason? refused again once := by
  intro reason? refused again once
  have plain : ∀ decl ∈ Moved.table.declarations, '/' ∉ decl.qualifiedName.toList := by
    decide +kernel
  have failures : (refused.1.reports.map Report.emitted).map
      (fun emitted => emitted.failed.map Prod.fst) = [[], [.interceptors "app"], []] := by
    rw [Moved.emitted_reports]
    decide +kernel
  have written : (once.1.reports.map Report.emitted).map EmitReport.written =
      [[], [.interceptors "app"], []] := by
    rw [Moved.emitted_reports]
    decide +kernel
  rw [List.map_map] at failures written
  exact ⟨Moved.reachable_build, plain, failures, written,
    retried_of_reachable Moved.reachable_build Moved.pipeline plain ⟨.empty, []⟩ reason?⟩

end RouteAtlas
