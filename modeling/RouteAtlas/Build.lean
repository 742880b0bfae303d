import RouteAtlas.Round.Hooks
import RouteAtlas.Round.Injectors
import RouteAtlas.Round.Routes

/-! # Builds

A build runs in rounds. Its routes and interceptors are carried from round to round; after the last
one all tables are written, those held back among them.
-/

namespace RouteAtlas

/-- What is carried from round to round. -/
structure BuildState where
  routes : RouteTable := .empty
  hooks : HookTable := .empty
  deriving DecidableEq

instance : Inhabited BuildState := ⟨{}⟩

/-- What came of a round, or of the end of a build. -/
structure RoundOutcome where
  state : BuildState
  log : Diagnostics
  reports : List Report
  /-- The route document, if it is asked for and tables were written. -/
  docs : Option RenderedUnit

namespace RoundOutcome

/-- Names of the declarations put off to a later round, ascending. -/
def deferred (outcome : RoundOutcome) : List String :=
  sortedDistinct (outcome.reports.flatMap Report.deferred)

/-- The errors that ended the work of processors. -/
def fatalErrors (outcome : RoundOutcome) : List (Processor × BuildError) :=
  outcome.reports.filterMap fun report => report.fatal.map (report.processor, ·)

/-- How many units were written. -/
def written (outcome : RoundOutcome) : Nat :=
  (outcome.reports.flatMap fun report => report.emitted.written).length

/-- How many units were written before with the same content. -/
def unchanged (outcome : RoundOutcome) : Nat :=
  (outcome.reports.flatMap fun report => report.emitted.unchanged).length

/-- How many units failed. -/
def failed (outcome : RoundOutcome) : Nat :=
  (outcome.reports.flatMap fun report => report.emitted.failed).length

end RoundOutcome

namespace Pipeline

variable {σ : Type}

/-- Run one round over the declarations of a table. -/
def runRound (pipeline : Pipeline) (sink : Sink σ) (build : BuildState) (table : SymbolTable)
    (state : σ) : RoundOutcome × σ :=
  let routes := pipeline.runRoutes sink table build.routes state
  let hooks := pipeline.runHooks sink table build.hooks routes.state
  let injectors := pipeline.runInjectors sink table hooks.state
  ({ state := ⟨routes.routes, hooks.hooks⟩
     log := routes.log ++ hooks.log ++ injectors.log
     reports := [routes.report, hooks.report, injectors.report]
     docs := routes.docs }, injectors.state)

/-- What came of writing some tables at the end of a build. -/
structure Flush (σ : Type) where
  report : Report
  docs : Option RenderedUnit := none
  state : σ
  log : Diagnostics := []

/-- Write the tables of all routes. -/
def flushRoutes (pipeline : Pipeline) (sink : Sink σ) (routes : RouteTable) (state : σ) : Flush σ :=
  if routes.isEmpty then { report := { processor := .route }, state }
  else
    match pipeline.options.requireModuleName with
    | .error error =>
      { report := { processor := .route, fatal := some error }, state, log := failureLog error }
    | .ok module =>
      let emission := pipeline.language.emit sink state (routes.units module)
      { report := { processor := .route, emitted := emission.report }
        docs := pipeline.document? module routes
        state := emission.state
        log := emission.log }

/-- Write the table of all interceptors. -/
def flushHooks (pipeline : Pipeline) (sink : Sink σ) (hooks : HookTable) (state : σ) : Flush σ :=
  if hooks.isEmpty then { report := { processor := .interceptor }, state }
  else
    match pipeline.options.requireModuleName with
    | .error error =>
      { report := { processor := .interceptor, fatal := some error }, state,
        log := failureLog error }
    | .ok module =>
      let emission := pipeline.language.emit sink state [hooks.unit module]
      { report := { processor := .interceptor, emitted := emission.report }
        state := emission.state
        log := emission.log }

/-- End a build: write the tables of everything that was carried so far. -/
def finish (pipeline : Pipeline) (sink : Sink σ) (build : BuildState) (state : σ) :
    RoundOutcome × σ :=
  let routes := pipeline.flushRoutes sink build.routes state
  let hooks := pipeline.flushHooks sink build.hooks routes.state
  ({ state := build
     log := routes.log ++ hooks.log
     reports := [routes.report, hooks.report]
     docs := routes.docs }, hooks.state)

end Pipeline

end RouteAtlas
