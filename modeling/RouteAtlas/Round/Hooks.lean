import RouteAtlas.Classification
import RouteAtlas.Hook
import RouteAtlas.Round.Report

/-! # The interceptors of a round

The interceptors of a round join those of the rounds before, one after another; two with one
priority end the work. Once none is put off, the table is written; if it cannot be, the interceptors
stay what they were before the round.
-/

namespace RouteAtlas

/-- What became of the interceptors in a round. -/
structure HookRound (σ : Type) where
  hooks : HookTable
  report : Report
  state : σ
  log : Diagnostics

/-- What came of inserting the interceptors of a round. -/
structure HookIntake where
  table : HookTable
  /-- How many classes are no interceptors. -/
  dropped : Nat := 0
  /-- The clash that ended the work. -/
  fatal : Option BuildError := none
  log : Diagnostics := []

namespace SymbolTable

/-- The interceptor that an annotated class is, if it keeps the contract. -/
def hookOf (table : SymbolTable) (decl : Declaration) : Except BuildError HookRecord :=
  match decl.marks.hook with
  | some mark =>
    if table.implements decl Contract.interceptor then
      .ok ⟨mark.priority, decl.asType, given? mark.name⟩
    else .error (.notAnInterceptor decl.qualifiedName)
  | none => .error (.notAnInterceptor decl.qualifiedName)

/-- Insert the interceptors of annotated classes one after another, up to the first clash. -/
def takeHooks (table : SymbolTable) (staged : HookTable) : List Declaration → HookIntake
  | [] => { table := staged }
  | decl :: rest =>
    match table.hookOf decl with
    | .error error =>
      let others := table.takeHooks staged rest
      { others with
        dropped := others.dropped + 1
        log := Diagnostics.report error decl.qualifiedName ++ others.log }
    | .ok hook =>
      match staged.insert hook with
      | .error error => { table := staged, fatal := some error, log := failureLog error }
      | .ok after =>
        let others := table.takeHooks after rest
        { others with
          log := Diagnostics.info (progress ("Found interceptor with priority " ++
            toString hook.priority ++ " : " ++ decl.qualifiedName)) ++ others.log }

end SymbolTable

namespace Pipeline

variable {σ : Type}

/-- Write the table of the staged interceptors, which become those of the build if it could be
    written. -/
def writeHooks (pipeline : Pipeline) (sink : Sink σ) (module : String) (before staged : HookTable)
    (state : σ) (report : Report) : HookRound σ :=
  let emission := pipeline.language.emit sink state [staged.unit module]
  let report := { report with emitted := emission.report }
  if emission.report.isClean then
    { hooks := staged, report, state := emission.state, log := emission.log }
  else
    { hooks := before, report, state := emission.state
      log := emission.log ++ Diagnostics.warn
        (progress "Interceptor table not emitted, keeping the previous interceptors") }

/-- Work on the interceptors of a round. -/
def runHooks (pipeline : Pipeline) (sink : Sink σ) (table : SymbolTable) (hooks : HookTable)
    (state : σ) : HookRound σ :=
  let found := resolvedOnes table.hooks
  let pending := pendingOnes table.hooks
  let report : Report :=
    { processor := .interceptor, found := found.length, deferred := declarationNames pending }
  let opening := Diagnostics.info (progress "InterceptorProcessor init.")
  if found.isEmpty then { hooks, report, state, log := opening }
  else
    let log := opening
      ++ Diagnostics.info (progress ("Found interceptors, size is " ++ toString found.length))
    match pipeline.options.requireModuleName with
    | .error error =>
      { hooks, report := { report with fatal := some error }, state,
        log := log ++ failureLog error }
    | .ok module =>
      let intake := table.takeHooks hooks found
      let report := { report with dropped := intake.dropped, fatal := intake.fatal }
      let log := log ++ intake.log
      if intake.fatal.isSome then { hooks, report, state, log }
      else if pending.isEmpty then
        let written := pipeline.writeHooks sink module hooks intake.table state report
        { written with log := log ++ written.log }
      else
        { hooks := intake.table, report, state
          log := log ++ Diagnostics.info (progress ("Interceptor table held back, " ++
            toString pending.length ++ " interceptors still unresolved")) }

end Pipeline

end RouteAtlas
