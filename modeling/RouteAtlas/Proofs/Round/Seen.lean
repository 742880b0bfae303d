import RouteAtlas.Proofs.Delivery.Carry
import RouteAtlas.Proofs.Delivery.Injectors
import RouteAtlas.Proofs.Round.Again

/-! # What a processor sees of a round

Each processor of a round looks at annotations of its own. Over a table without the annotations of
the others it offers the same units to the sink, and reports the same.
-/

namespace RouteAtlas

/-- What a processor sees of a class. The properties are of no interest to the one for
    interceptors, and for the fields that routes bring to the one for routes. -/
def Processor.sees : Processor → Declaration → Declaration
  | .route, decl => { decl with marks := { decl.marks with hook := none } }
  | .interceptor, decl => { decl with marks := { decl.marks with route := none }, properties := [] }
  | .autowired, decl => { decl with marks := {} }

namespace Processor

variable (processor : Processor) (decl : Declaration)

@[simp] theorem qualifiedName_sees :
    (processor.sees decl).qualifiedName = decl.qualifiedName := by
  cases processor <;> rfl

@[simp] theorem supertypes_sees : (processor.sees decl).supertypes = decl.supertypes := by
  cases processor <;> rfl

@[simp] theorem resolved_sees : (processor.sees decl).resolved = decl.resolved := by
  cases processor <;> rfl

end Processor

section Lists

variable (processor : Processor) (decls : List Declaration)

theorem resolvedOnes_sees :
    resolvedOnes (decls.map processor.sees) = (resolvedOnes decls).map processor.sees := by
  simp [resolvedOnes, List.filter_map, Function.comp_def]

theorem pendingOnes_sees :
    pendingOnes (decls.map processor.sees) = (pendingOnes decls).map processor.sees := by
  simp [pendingOnes, List.filter_map, Function.comp_def]

theorem declarationNames_sees :
    declarationNames (decls.map processor.sees) = declarationNames decls := by
  simp [declarationNames, Function.comp_def]

end Lists

namespace SymbolTable

/-- What a processor sees of a table. -/
def seenBy (table : SymbolTable) (processor : Processor) : SymbolTable where
  declarations := table.declarations.map processor.sees
  distinct := by
    have names := declarationNames_sees processor table.declarations
    unfold declarationNames at names
    rw [names]
    exact table.distinct

theorem seenBy_eq {table other : SymbolTable} {processor : Processor}
    (same : table.declarations.map processor.sees = other.declarations.map processor.sees) :
    table.seenBy processor = other.seenBy processor := by
  unfold seenBy
  rw [SymbolTable.mk.injEq]
  exact same

variable (table : SymbolTable) (processor : Processor)

theorem supertypeNames_seenBy (name : String) :
    (table.seenBy processor).supertypeNames name = table.supertypeNames name := by
  have found : (table.seenBy processor).resolve name = (table.resolve name).map processor.sees := by
    simp only [resolve, seenBy, List.find?_map, Function.comp_def, Processor.qualifiedName_sees]
  rw [supertypeNames, found, supertypeNames]
  cases table.resolve name <;> simp

theorem alike_seenBy (decl : Declaration) : Alike (table.seenBy processor) table decl :=
  alike_of_supertypeNames (table.supertypeNames_seenBy processor) decl

section Routes

theorem routes_seenBy : (table.seenBy .route).routes = table.routes.map (Processor.sees .route) :=
  List.filter_map

theorem extractRoute_seenBy (decl : Declaration) :
    (table.seenBy .route).extractRoute (Processor.sees .route decl) = table.extractRoute decl :=
  (table.alike_seenBy .route decl).extractRoute

theorem extractRoutes_seenBy (decls : List Declaration) :
    (table.seenBy .route).extractRoutes (decls.map (Processor.sees .route)) =
      table.extractRoutes decls := by
  have log : ∀ decl, (table.seenBy .route).extractionLog (Processor.sees .route decl) =
      table.extractionLog decl := by
    intro decl
    unfold extractionLog
    rw [extractRoute_seenBy]
    rfl
  simp only [extractRoutes, List.filterMap_map, List.countP_map, List.flatMap_map,
    Function.comp_def, extractRoute_seenBy, log]

end Routes

section Hooks

theorem hooks_seenBy :
    (table.seenBy .interceptor).hooks = table.hooks.map (Processor.sees .interceptor) :=
  List.filter_map

theorem hookOf_seenBy (decl : Declaration) :
    (table.seenBy .interceptor).hookOf (Processor.sees .interceptor decl) = table.hookOf decl :=
  (table.alike_seenBy .interceptor decl).hookOf

theorem takeHooks_seenBy (staged : HookTable) (decls : List Declaration) :
    (table.seenBy .interceptor).takeHooks staged (decls.map (Processor.sees .interceptor)) =
      table.takeHooks staged decls := by
  induction decls generalizing staged with
  | nil => rfl
  | cons decl rest ih =>
      simp only [List.map_cons, takeHooks, hookOf_seenBy, ih, Processor.qualifiedName_sees]

end Hooks

section Owners

theorem owners_seenBy :
    (table.seenBy .autowired).owners = table.owners.map (Processor.sees .autowired) := by
  apply owners_eq
  · have wired : (table.seenBy .autowired).declarations.filter Declaration.isWired =
        (table.declarations.filter Declaration.isWired).map (Processor.sees .autowired) :=
      List.filter_map
    have own := (table.seenBy .autowired).owners_perm
    rw [wired] at own
    exact own.trans (table.owners_perm.map _).symm
  · exact (table.seenBy .autowired).owners_ascending
  · rw [List.pairwise_map]
    exact table.owners_ascending

theorem injectorOf_seenBy (decl : Declaration) :
    (table.seenBy .autowired).injectorOf (Processor.sees .autowired decl) = table.injectorOf decl :=
  (table.alike_seenBy .autowired decl).injectorOf

theorem checkOwners_sees (decls : List Declaration) :
    checkOwners (decls.map (Processor.sees .autowired)) = checkOwners decls := by
  induction decls with
  | nil => rfl
  | cons decl rest ih =>
      exact congrArg (fun others => decl.injected.forM (checkAccess decl) >>= fun _ => others) ih

end Owners

end SymbolTable

namespace Pipeline

variable {σ : Type} {pipeline : Pipeline} {sink : Sink σ} {table : SymbolTable} {state : σ}

section Seen

theorem runRoutes_seenBy (routes : RouteTable) :
    pipeline.runRoutes sink (table.seenBy .route) routes state =
      pipeline.runRoutes sink table routes state := by
  simp only [runRoutes, SymbolTable.routes_seenBy, resolvedOnes_sees, pendingOnes_sees,
    declarationNames_sees, SymbolTable.extractRoutes_seenBy, List.length_map, List.isEmpty_map]

theorem runHooks_seenBy (hooks : HookTable) :
    pipeline.runHooks sink (table.seenBy .interceptor) hooks state =
      pipeline.runHooks sink table hooks state := by
  simp only [runHooks, SymbolTable.hooks_seenBy, resolvedOnes_sees, pendingOnes_sees,
    declarationNames_sees, SymbolTable.takeHooks_seenBy, List.length_map, List.isEmpty_map]

theorem runInjectors_seenBy :
    pipeline.runInjectors sink (table.seenBy .autowired) state =
      pipeline.runInjectors sink table state := by
  have log : ∀ owner, (table.seenBy .autowired).injectorLog (Processor.sees .autowired owner) =
      table.injectorLog owner := by
    intro owner
    unfold SymbolTable.injectorLog
    rw [SymbolTable.injectorOf_seenBy]
    rfl
  have wired : ∀ owner, (Processor.sees .autowired owner).injected = owner.injected :=
    fun _ => rfl
  simp only [runInjectors, SymbolTable.owners_seenBy, resolvedOnes_sees, pendingOnes_sees,
    declarationNames_sees, SymbolTable.checkOwners_sees, List.isEmpty_map, List.filterMap_map,
    List.countP_map, List.flatMap_map, Function.comp_def, SymbolTable.injectorOf_seenBy, log, wired]

section Congr

variable {other : SymbolTable}

theorem runRoutes_congr (same : table.seenBy .route = other.seenBy .route) {routes : RouteTable} :
    pipeline.runRoutes sink table routes state = pipeline.runRoutes sink other routes state := by
  rw [← runRoutes_seenBy, same, runRoutes_seenBy]

theorem runHooks_congr (same : table.seenBy .interceptor = other.seenBy .interceptor)
    {hooks : HookTable} :
    pipeline.runHooks sink table hooks state = pipeline.runHooks sink other hooks state := by
  rw [← runHooks_seenBy, same, runHooks_seenBy]

theorem runInjectors_congr (same : table.seenBy .autowired = other.seenBy .autowired) :
    pipeline.runInjectors sink table state = pipeline.runInjectors sink other state := by
  rw [← runInjectors_seenBy, same, runInjectors_seenBy]

end Congr

end Seen

/-! What a processor makes of the state of a sink is in its emission. -/

section Reports

theorem report_runRoutes (routes : RouteTable) :
    (pipeline.runRoutes sink table routes state).report =
      { processor := .route
        found := (resolvedOnes table.routes).length
        dropped := (table.extractRoutes (resolvedOnes table.routes)).failed +
          (routes.insertAll (table.extractRoutes (resolvedOnes table.routes)).records).refused
        emitted := (pipeline.language.emit sink state (pipeline.routeOffer table routes)).report
        fatal := if (resolvedOnes table.routes).isEmpty || !(pendingOnes table.routes).isEmpty ||
            pipeline.options.moduleName.isSome then none else some .missingModuleName
        deferred := declarationNames (pendingOnes table.routes) } := by
  have fatal : (pipeline.runRoutes sink table routes state).report.fatal = _ :=
    fatal_runRoutes routes
  rw [← (runRoutes_offer routes).2, ← fatal]
  by_cases found : (resolvedOnes table.routes).isEmpty = true
  · have nothing : resolvedOnes table.routes = [] := List.isEmpty_iff.mp found
    simp only [runRoutes, nothing]
    rfl
  · unfold runRoutes writeRoutes
    grind

/-- There is a route document when the tables of a module with a name were all written. -/
theorem docs_runRoutes (routes : RouteTable) :
    (pipeline.runRoutes sink table routes state).docs =
      if (resolvedOnes table.routes).isEmpty || !(pendingOnes table.routes).isEmpty ||
          !(pipeline.runRoutes sink table routes state).report.emitted.isClean then none
      else pipeline.options.moduleName.bind fun module =>
        pipeline.document? module (table.stagedRoutes routes) := by
  unfold runRoutes writeRoutes BuildOptions.requireModuleName SymbolTable.stagedRoutes
  cases pipeline.options.moduleName <;> grind

theorem report_runHooks (hooks : HookTable) :
    (pipeline.runHooks sink table hooks state).report =
      { processor := .interceptor
        found := (resolvedOnes table.hooks).length
        dropped :=
          if pipeline.options.moduleName.isSome then (table.stagedHooks hooks).dropped else 0
        emitted := (pipeline.language.emit sink state (pipeline.hookOffer table hooks)).report
        fatal := if (resolvedOnes table.hooks).isEmpty then none
          else if pipeline.options.moduleName.isSome then (table.stagedHooks hooks).fatal
          else some .missingModuleName
        deferred := declarationNames (pendingOnes table.hooks) } := by
  have fatal : (pipeline.runHooks sink table hooks state).report.fatal = _ :=
    fatal_runHooks_eq hooks
  rw [← (runHooks_offer hooks).2, ← fatal]
  by_cases found : (resolvedOnes table.hooks).isEmpty = true
  · have nothing : resolvedOnes table.hooks = [] := List.isEmpty_iff.mp found
    simp only [runHooks, SymbolTable.stagedHooks, nothing]
    cases pipeline.options.moduleName <;> rfl
  · unfold runHooks writeHooks BuildOptions.requireModuleName SymbolTable.stagedHooks
    cases pipeline.options.moduleName <;> grind

theorem report_runInjectors :
    (pipeline.runInjectors sink table state).report =
      { processor := .autowired
        found := ((resolvedOnes table.owners).flatMap Declaration.injected).length
        dropped := match SymbolTable.checkOwners (resolvedOnes table.owners) with
          | .error _ => 0
          | .ok () => (resolvedOnes table.owners).countP fun owner =>
            (table.injectorOf owner).toOption.isNone
        emitted := (pipeline.language.emit sink state (injectorOffer table)).report
        fatal := match SymbolTable.checkOwners (resolvedOnes table.owners) with
          | .error error => some error
          | .ok () => none
        deferred := declarationNames (pendingOnes table.owners) } := by
  rw [← runInjectors_offer.2]
  unfold runInjectors
  cases found : (resolvedOnes table.owners).isEmpty with
  | true =>
      rw [List.isEmpty_iff.mp found]
      rfl
  | false =>
      simp only [found]
      cases SymbolTable.checkOwners (resolvedOnes table.owners) <;> rfl

end Reports

end Pipeline

end RouteAtlas
