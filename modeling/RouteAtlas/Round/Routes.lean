import RouteAtlas.Round.Report
import RouteAtlas.Route.Document
import RouteAtlas.Route.Extract

/-! # The routes of a round

The routes of a round join those of the rounds before. Once no route is put off, the tables are
written; if one of them cannot be, the routes stay what they were before the round.
-/

namespace RouteAtlas

structure RouteRound (σ : Type) where
  routes : RouteTable
  report : Report
  /-- The route document, if there is one. -/
  docs : Option RenderedUnit := none
  state : σ
  log : Diagnostics

namespace Pipeline

variable {σ : Type}

/-- The route document of a module, if it is asked for. -/
def document? (pipeline : Pipeline) (module : String) (routes : RouteTable) :
    Option RenderedUnit :=
  if pipeline.options.docs then some (routes.document module) else none

/-- Write the tables of the staged routes, which become the routes of the build if every table
    could be written. -/
def writeRoutes (pipeline : Pipeline) (sink : Sink σ) (before staged : RouteTable) (state : σ)
    (report : Report) : RouteRound σ :=
  match pipeline.options.requireModuleName with
  | .error error =>
    { routes := before, report := { report with fatal := some error }, state,
      log := failureLog error }
  | .ok module =>
    let emission := pipeline.language.emit sink state (staged.units module)
    let report := { report with emitted := emission.report }
    if emission.report.isClean then
      { routes := staged, report, docs := pipeline.document? module staged,
        state := emission.state, log := emission.log }
    else
      { routes := before, report, state := emission.state
        log := emission.log ++
          Diagnostics.warn (progress "Route tables not emitted, keeping the previous routes") }

def runRoutes (pipeline : Pipeline) (sink : Sink σ) (table : SymbolTable) (routes : RouteTable)
    (state : σ) : RouteRound σ :=
  let found := resolvedOnes table.routes
  let pending := pendingOnes table.routes
  let report : Report :=
    { processor := .route, found := found.length, deferred := declarationNames pending }
  let opening := Diagnostics.info (progress "RouteProcessor init.")
  if found.isEmpty then { routes, report, state, log := opening }
  else
    let extraction := table.extractRoutes found
    let batch := routes.insertAll extraction.records
    let report := { report with dropped := extraction.failed + batch.refused }
    let log := opening
      ++ Diagnostics.info (progress ("Found routes, size is " ++ toString found.length))
      ++ extraction.log ++ batch.log
    if pending.isEmpty then
      let tables := pipeline.writeRoutes sink routes batch.table state report
      { tables with log := log ++ tables.log }
    else
      { routes := batch.table, report, state
        log := log ++ Diagnostics.info (progress
          ("Route tables held back, " ++ toString pending.length ++ " routes still unresolved")) }

end Pipeline

end RouteAtlas
