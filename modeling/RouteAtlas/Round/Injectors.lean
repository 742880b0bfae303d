import RouteAtlas.Injection.Dispatch
import RouteAtlas.Round.Report

/-! # The injectors of a round

Each class with annotated fields gets an injector. Classes go by name. One private field ends the
work before any injector is written; a class with a field that cannot be filled in is dropped.
-/

namespace RouteAtlas

/-- What became of the injected fields in a round. -/
structure InjectorRound (σ : Type) where
  report : Report
  state : σ
  log : Diagnostics

namespace SymbolTable

/-- The classes with annotated fields, ascending by name. -/
def owners (table : SymbolTable) : List Declaration :=
  (SortedMap.ofList
    ((table.declarations.filter fun decl => !decl.injected.isEmpty).map fun decl =>
      (decl.qualifiedName, decl))).values

/-- The first private field among the annotated fields of classes. -/
def checkOwners (owners : List Declaration) : Except BuildError Unit :=
  owners.forM fun owner => owner.injected.forM (checkAccess owner)

/-- The injector of a class, if each of its annotated fields can be filled in. -/
def injectorOf (table : SymbolTable) (owner : Declaration) : Except BuildError InjectorPlan :=
  table.compileInjector owner owner.injected

/-- What is said of one class. -/
def injectorLog (table : SymbolTable) (owner : Declaration) : Diagnostics :=
  Diagnostics.info (progress ("Start process " ++ toString owner.injected.length ++ " field in " ++
      owner.simpleName ++ " ..."))
    ++ match table.injectorOf owner with
      | .ok _ => []
      | .error error => Diagnostics.report error owner.qualifiedName

end SymbolTable

namespace Pipeline

variable {σ : Type}

/-- Work on the injected fields of a round. -/
def runInjectors (pipeline : Pipeline) (sink : Sink σ) (table : SymbolTable) (state : σ) :
    InjectorRound σ :=
  let owners := resolvedOnes table.owners
  let report : Report :=
    { processor := .autowired
      found := (owners.flatMap Declaration.injected).length
      deferred := declarationNames (pendingOnes table.owners) }
  let opening := Diagnostics.info (progress "AutowiredProcessor init.")
  if owners.isEmpty then { report, state, log := opening }
  else
    let log := opening ++ Diagnostics.info (progress "Found autowired field, start...")
    match SymbolTable.checkOwners owners with
    | .error error =>
      { report := { report with fatal := some error }, state, log := log ++ failureLog error }
    | .ok () =>
      let plans := owners.filterMap fun owner => (table.injectorOf owner).toOption
      let emission := pipeline.language.emit sink state (plans.map InjectorPlan.unit)
      { report := { report with
          dropped := owners.countP fun owner => (table.injectorOf owner).toOption.isNone
          emitted := emission.report }
        state := emission.state
        log := log ++ owners.flatMap table.injectorLog ++ emission.log
          ++ Diagnostics.info (progress "Autowired processor stop.") }

end Pipeline

end RouteAtlas
