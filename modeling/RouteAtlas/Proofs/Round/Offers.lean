import RouteAtlas.Build
import RouteAtlas.Proofs.Ledger

/-! # What a round offers to the sink

Each processor of a round emits some units, which are determined by the table and by what was
carried so far, or none at all. The units of the routes and interceptors are those of the tables
that the round leaves behind, unless it fails.
-/

namespace RouteAtlas

/-- The routes of a build with those of a round. -/
def SymbolTable.stagedRoutes (table : SymbolTable) (routes : RouteTable) : RouteTable :=
  (routes.insertAll (table.extractRoutes (resolvedOnes table.routes)).records).table

/-- What comes of inserting the interceptors of a round. -/
def SymbolTable.stagedHooks (table : SymbolTable) (hooks : HookTable) : HookIntake :=
  table.takeHooks hooks (resolvedOnes table.hooks)

/-- One interceptor joins those of a build. -/
theorem SymbolTable.stagedHooks_of_single {table : SymbolTable} {before after : HookTable}
    {decl : Declaration} {hook : HookRecord}
    (found : resolvedOnes table.hooks = [decl]) (made : table.hookOf decl = .ok hook)
    (inserted : before.insert hook = .ok after) :
    (table.stagedHooks before).table = after ∧ (table.stagedHooks before).fatal = none := by
  rw [stagedHooks, found]
  simp only [takeHooks, made, inserted, and_self]

/-- The interceptors of a build with those of a round, unless two of them clash. -/
def SymbolTable.joinedHooks (table : SymbolTable) (hooks : HookTable) : HookTable :=
  if (table.stagedHooks hooks).fatal.isSome then hooks else (table.stagedHooks hooks).table

/-- The plans of the injectors of a round. -/
def SymbolTable.plans (table : SymbolTable) : List InjectorPlan :=
  (resolvedOnes table.owners).filterMap fun owner => (table.injectorOf owner).toOption

namespace Pipeline

/-- The units of the routes that a round offers to the sink. -/
def routeOffer (pipeline : Pipeline) (table : SymbolTable) (routes : RouteTable) :
    List GeneratedUnit :=
  if (resolvedOnes table.routes).isEmpty || !(pendingOnes table.routes).isEmpty then []
  else (pipeline.options.moduleName.map (table.stagedRoutes routes).units).getD []

/-- The unit of the interceptors that a round offers to the sink. -/
def hookOffer (pipeline : Pipeline) (table : SymbolTable) (hooks : HookTable) :
    List GeneratedUnit :=
  if (resolvedOnes table.hooks).isEmpty || !(pendingOnes table.hooks).isEmpty ||
    (table.stagedHooks hooks).fatal.isSome then []
  else (pipeline.options.moduleName.map fun module =>
    [(table.stagedHooks hooks).table.unit module]).getD []

/-- The injectors that a round offers to the sink. -/
def injectorOffer (table : SymbolTable) : List GeneratedUnit :=
  match SymbolTable.checkOwners (resolvedOnes table.owners) with
  | .error _ => []
  | .ok () => table.plans.map InjectorPlan.unit

/-- The units that a round offers to the sink, in order. -/
def roundOffer (pipeline : Pipeline) (table : SymbolTable) (build : BuildState) :
    List GeneratedUnit :=
  pipeline.routeOffer table build.routes ++ pipeline.hookOffer table build.hooks ++
    injectorOffer table

variable {σ : Type} {pipeline : Pipeline} {sink : Sink σ} {table : SymbolTable} {state : σ}

theorem runRoutes_offer (routes : RouteTable) :
    (pipeline.runRoutes sink table routes state).state =
        (pipeline.language.emit sink state (pipeline.routeOffer table routes)).state ∧
      (pipeline.runRoutes sink table routes state).report.emitted =
        (pipeline.language.emit sink state (pipeline.routeOffer table routes)).report := by
  simp only [runRoutes, routeOffer, writeRoutes, BuildOptions.requireModuleName]
  cases (resolvedOnes table.routes).isEmpty with
  | true => exact ⟨rfl, rfl⟩
  | false =>
      cases (pendingOnes table.routes).isEmpty with
      | false => exact ⟨rfl, rfl⟩
      | true =>
          cases pipeline.options.moduleName with
          | none => exact ⟨rfl, rfl⟩
          | some module =>
              simp only [Bool.false_eq_true, if_false, if_true]
              split <;> exact ⟨rfl, rfl⟩

theorem runHooks_offer (hooks : HookTable) :
    (pipeline.runHooks sink table hooks state).state =
        (pipeline.language.emit sink state (pipeline.hookOffer table hooks)).state ∧
      (pipeline.runHooks sink table hooks state).report.emitted =
        (pipeline.language.emit sink state (pipeline.hookOffer table hooks)).report := by
  simp only [runHooks, hookOffer, writeHooks, BuildOptions.requireModuleName]
  cases (resolvedOnes table.hooks).isEmpty with
  | true => exact ⟨rfl, rfl⟩
  | false =>
      cases pipeline.options.moduleName with
      | none =>
          simp only [Option.map_none, Option.getD_none, ite_self]
          exact ⟨rfl, rfl⟩
      | some module =>
          simp only [Bool.false_eq_true, if_false, SymbolTable.stagedHooks]
          by_cases clash : (table.takeHooks hooks (resolvedOnes table.hooks)).fatal.isSome = true
          · simp only [clash, if_true, Bool.or_true]
            exact ⟨rfl, rfl⟩
          · simp only [clash, Bool.or_false, Bool.false_eq_true, if_false]
            by_cases pending : (pendingOnes table.hooks).isEmpty = true
            · simp only [pending, if_true, Bool.not_true]
              split <;> exact ⟨rfl, rfl⟩
            · simp only [pending, Bool.false_eq_true, if_false, Bool.not_false]
              exact ⟨rfl, rfl⟩

theorem runInjectors_offer :
    (pipeline.runInjectors sink table state).state =
        (pipeline.language.emit sink state (injectorOffer table)).state ∧
      (pipeline.runInjectors sink table state).report.emitted =
        (pipeline.language.emit sink state (injectorOffer table)).report := by
  simp only [runInjectors, injectorOffer, SymbolTable.plans]
  cases found : (resolvedOnes table.owners).isEmpty with
  | true =>
      rw [List.isEmpty_iff.mp found]
      exact ⟨rfl, rfl⟩
  | false =>
      cases SymbolTable.checkOwners (resolvedOnes table.owners) with
      | error => exact ⟨rfl, rfl⟩
      | ok => exact ⟨rfl, rfl⟩

/-- The routes of a build after a round, which takes over what it found if the tables of a module
    with a name were written or held back. -/
theorem routes_runRoutes (routes : RouteTable) :
    (pipeline.runRoutes sink table routes state).routes =
      if (pipeline.options.moduleName.isSome || !(pendingOnes table.routes).isEmpty) &&
          (pipeline.runRoutes sink table routes state).report.emitted.isClean
        then table.stagedRoutes routes else routes := by
  by_cases found : (resolvedOnes table.routes).isEmpty = true
  · have same : table.stagedRoutes routes = routes := by
      rw [SymbolTable.stagedRoutes, List.isEmpty_iff.mp found]
      rfl
    rw [same, ite_self, runRoutes, if_pos found]
  · by_cases pending : (pendingOnes table.routes).isEmpty = true
    · cases named : pipeline.options.moduleName with
      | none =>
          simp only [runRoutes, writeRoutes, BuildOptions.requireModuleName, named, found, pending]
          rfl
      | some module =>
          simp only [runRoutes, writeRoutes, BuildOptions.requireModuleName, named, found, pending]
          simp only [if_true, Bool.false_eq_true, if_false]
          split
          · rename_i clean
            simp [clean]
            rfl
          · rename_i clean
            simp [clean]
    · simp only [runRoutes, found, pending, Bool.not_false, Bool.or_true, Bool.true_and]
      rfl

theorem routes_of_clean {module : String} (named : pipeline.options.moduleName = some module)
    (routes : RouteTable)
    (clean : (pipeline.runRoutes sink table routes state).report.emitted.isClean = true) :
    (pipeline.runRoutes sink table routes state).routes = table.stagedRoutes routes := by
  rw [routes_runRoutes, clean, named]
  rfl

/-- Two interceptors with one priority are what ends the work on the interceptors of a module with
    a name. -/
theorem fatal_runHooks {module : String} (named : pipeline.options.moduleName = some module)
    (hooks : HookTable) :
    (pipeline.runHooks sink table hooks state).report.fatal = (table.stagedHooks hooks).fatal := by
  simp only [runHooks, writeHooks, BuildOptions.requireModuleName, named, SymbolTable.stagedHooks]
  cases found : (resolvedOnes table.hooks).isEmpty with
  | true =>
      rw [List.isEmpty_iff.mp found]
      rfl
  | false =>
      simp only [Bool.false_eq_true, if_false]
      split
      · rfl
      · split
        · split <;> rfl
        · rfl

/-- The interceptors of a build after a round, which takes over what it found if no two clash and
    the table of a module with a name was written or held back. -/
theorem hooks_runHooks (hooks : HookTable) :
    (pipeline.runHooks sink table hooks state).hooks =
      if pipeline.options.moduleName.isSome &&
          (pipeline.runHooks sink table hooks state).report.emitted.isClean
        then table.joinedHooks hooks else hooks := by
  by_cases found : (resolvedOnes table.hooks).isEmpty = true
  · have same : table.joinedHooks hooks = hooks := by
      rw [SymbolTable.joinedHooks, SymbolTable.stagedHooks, List.isEmpty_iff.mp found]
      rfl
    rw [same, ite_self, runHooks, if_pos found]
  · cases named : pipeline.options.moduleName with
    | none =>
        simp only [runHooks, BuildOptions.requireModuleName, named, found]
        rfl
    | some module =>
        cases outcome : (table.takeHooks hooks (resolvedOnes table.hooks)).fatal with
        | some error =>
            simp only [runHooks, BuildOptions.requireModuleName, SymbolTable.joinedHooks,
              SymbolTable.stagedHooks, named, found, outcome]
            rfl
        | none =>
            have joined : table.joinedHooks hooks =
                (table.takeHooks hooks (resolvedOnes table.hooks)).table :=
              if_neg (by rw [SymbolTable.stagedHooks, outcome]; exact Bool.false_ne_true)
            by_cases pending : (pendingOnes table.hooks).isEmpty = true
            · simp only [runHooks, writeHooks, BuildOptions.requireModuleName, named, found,
                outcome, pending, joined, if_true, Bool.false_eq_true, if_false,
                Option.isSome_none, Option.isSome_some, Bool.true_and]
              split <;> simp [*]
            · simp only [runHooks, BuildOptions.requireModuleName, named, found, outcome, pending,
                joined]
              rfl

theorem hooks_of_clean {module : String} (named : pipeline.options.moduleName = some module)
    (hooks : HookTable) (sound : (pipeline.runHooks sink table hooks state).report.fatal = none)
    (clean : (pipeline.runHooks sink table hooks state).report.emitted.isClean = true) :
    (pipeline.runHooks sink table hooks state).hooks = (table.stagedHooks hooks).table := by
  rw [fatal_runHooks named] at sound
  rw [hooks_runHooks, clean, named, SymbolTable.joinedHooks, sound]
  rfl

/-- The units of the routes that the end of a build offers to the sink. -/
def routeFlush (pipeline : Pipeline) (routes : RouteTable) : List GeneratedUnit :=
  if routes.isEmpty then [] else (pipeline.options.moduleName.map routes.units).getD []

/-- The unit of the interceptors that the end of a build offers to the sink. -/
def hookFlush (pipeline : Pipeline) (hooks : HookTable) : List GeneratedUnit :=
  if hooks.isEmpty then []
  else (pipeline.options.moduleName.map fun module => [hooks.unit module]).getD []

/-- The units that the end of a build offers to the sink, in order. -/
def finishOffer (pipeline : Pipeline) (build : BuildState) : List GeneratedUnit :=
  pipeline.routeFlush build.routes ++ pipeline.hookFlush build.hooks

theorem flushRoutes_offer (routes : RouteTable) :
    (pipeline.flushRoutes sink routes state).state =
        (pipeline.language.emit sink state (pipeline.routeFlush routes)).state ∧
      (pipeline.flushRoutes sink routes state).report.emitted =
        (pipeline.language.emit sink state (pipeline.routeFlush routes)).report := by
  simp only [flushRoutes, routeFlush, BuildOptions.requireModuleName]
  cases routes.isEmpty with
  | true => exact ⟨rfl, rfl⟩
  | false => cases pipeline.options.moduleName <;> exact ⟨rfl, rfl⟩

theorem flushHooks_offer (hooks : HookTable) :
    (pipeline.flushHooks sink hooks state).state =
        (pipeline.language.emit sink state (pipeline.hookFlush hooks)).state ∧
      (pipeline.flushHooks sink hooks state).report.emitted =
        (pipeline.language.emit sink state (pipeline.hookFlush hooks)).report := by
  simp only [flushHooks, hookFlush, BuildOptions.requireModuleName]
  cases hooks.isEmpty with
  | true => exact ⟨rfl, rfl⟩
  | false => cases pipeline.options.moduleName <;> exact ⟨rfl, rfl⟩

theorem runRound_offer (build : BuildState) :
    (pipeline.runRound sink build table state).2 =
      (pipeline.language.emit sink state (pipeline.roundOffer table build)).state := by
  rw [roundOffer, Language.state_emit_append, Language.state_emit_append]
  simp only [runRound]
  rw [runInjectors_offer.1, (runHooks_offer _).1, (runRoutes_offer _).1]

theorem finish_offer (build : BuildState) :
    (pipeline.finish sink build state).2 =
      (pipeline.language.emit sink state (pipeline.finishOffer build)).state := by
  rw [finishOffer, Language.state_emit_append]
  simp only [finish]
  rw [(flushHooks_offer _).1, (flushRoutes_offer _).1]

end Pipeline

/-- No processor gave up and no unit failed. -/
def RoundOutcome.Clean (outcome : RoundOutcome) : Prop :=
  ∀ report ∈ outcome.reports, report.fatal = none ∧ report.emitted.isClean = true

/-- The routes and interceptors of a build with those of a round. -/
def SymbolTable.staged (table : SymbolTable) (build : BuildState) : BuildState :=
  ⟨table.stagedRoutes build.routes, (table.stagedHooks build.hooks).table⟩

namespace Pipeline

variable {σ : Type} {pipeline : Pipeline} {sink : Sink σ} {table : SymbolTable} {state : σ}

/-- A clean round takes over everything it found. -/
theorem runRound_clean {module : String} (named : pipeline.options.moduleName = some module)
    (build : BuildState) (clean : (pipeline.runRound sink build table state).1.Clean) :
    (pipeline.runRound sink build table state).1.state = table.staged build ∧
      (pipeline.language.emit sink state (pipeline.roundOffer table build)).report.isClean =
        true := by
  obtain ⟨-, routes⟩ := clean _ List.mem_cons_self
  obtain ⟨sound, hooks⟩ := clean _ (List.mem_cons_of_mem _ List.mem_cons_self)
  obtain ⟨-, injectors⟩ :=
    clean _ (List.mem_cons_of_mem _ (List.mem_cons_of_mem _ List.mem_cons_self))
  constructor
  · simp only [runRound, SymbolTable.staged]
    rw [routes_of_clean named _ routes, hooks_of_clean named _ sound hooks]
  · rw [(runInjectors_offer).2, (runHooks_offer _).1, (runRoutes_offer _).1] at injectors
    rw [(runHooks_offer _).2, (runRoutes_offer _).1] at hooks
    rw [(runRoutes_offer _).2] at routes
    rw [roundOffer, Language.isClean_emit_append, Language.isClean_emit_append,
      Language.state_emit_append]
    exact ⟨⟨routes, hooks⟩, injectors⟩

theorem finish_clean (build : BuildState) (clean : (pipeline.finish sink build state).1.Clean) :
    (pipeline.language.emit sink state (pipeline.finishOffer build)).report.isClean = true := by
  obtain ⟨-, routes⟩ := clean _ List.mem_cons_self
  obtain ⟨-, hooks⟩ := clean _ (List.mem_cons_of_mem _ List.mem_cons_self)
  rw [(flushHooks_offer _).2, (flushRoutes_offer _).1] at hooks
  rw [(flushRoutes_offer _).2] at routes
  rw [finishOffer, Language.isClean_emit_append]
  exact ⟨routes, hooks⟩

section Named

variable {module : String} (named : pipeline.options.moduleName = some module)
include named

/-- A round offers the tables of all routes, or none of them. -/
theorem routeOffer_cases (routes : RouteTable) :
    pipeline.routeOffer table routes = [] ∨
      pipeline.routeOffer table routes = (table.stagedRoutes routes).units module := by
  unfold routeOffer
  split
  · exact .inl rfl
  · rw [named]
    exact .inr rfl

theorem hookOffer_cases (hooks : HookTable) :
    pipeline.hookOffer table hooks = [] ∨
      pipeline.hookOffer table hooks = [(table.stagedHooks hooks).table.unit module] := by
  unfold hookOffer
  split
  · exact .inl rfl
  · rw [named]
    exact .inr rfl

theorem routeFlush_eq (routes : RouteTable) :
    pipeline.routeFlush routes = if routes.isEmpty then [] else routes.units module := by
  rw [routeFlush, named]
  rfl

theorem hookFlush_eq (hooks : HookTable) :
    pipeline.hookFlush hooks = if hooks.isEmpty then [] else [hooks.unit module] := by
  rw [hookFlush, named]
  rfl

end Named

theorem mem_injectorOffer {unit : GeneratedUnit} (member : unit ∈ injectorOffer table) :
    ∃ plan, unit = InjectorPlan.unit plan := by
  unfold injectorOffer at member
  split at member
  · cases member
  · obtain ⟨plan, _, rfl⟩ := List.mem_map.mp member
    exact ⟨plan, rfl⟩

end Pipeline

end RouteAtlas
