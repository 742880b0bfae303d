import RouteAtlas.Proofs.Classification.Alike
import RouteAtlas.Proofs.Except
import RouteAtlas.Proofs.Round.Seen

/-! # The injected fields of a round

A private field among the annotated ones ends the work on all classes. A field that cannot be filled
in costs its own class the injector, and no other class. What order the declarations are in is of no
account.
-/

namespace RouteAtlas

/-- The properties of a class that carry an annotation of injected fields, as they stand in it. -/
def Declaration.wiredProperties (decl : Declaration) : List Property :=
  decl.properties.filter fun property => property.wire.isSome || property.param.isSome

theorem Declaration.injected_eq (decl : Declaration) : decl.injected = decl.wiredProperties := rfl

/-- The annotated fields of classes, class by class. -/
def wiredFields (owners : List Declaration) : List (Declaration × Property) :=
  owners.flatMap fun owner => owner.wiredProperties.map fun property => (owner, property)

/-- The first private one of the annotated fields of classes. -/
def firstHidden? (owners : List Declaration) : Option (Declaration × Property) :=
  (wiredFields owners).find? fun field => decide (field.2.visibility = .privateScope)

theorem firstHidden?_cons (owner : Declaration) (rest : List Declaration) :
    firstHidden? (owner :: rest) =
      match owner.wiredProperties.find? fun property =>
          decide (property.visibility = .privateScope) with
      | none => firstHidden? rest
      | some property => some (owner, property) := by
  rw [firstHidden?, wiredFields, List.flatMap_cons, List.find?_append, List.find?_map]
  simp only [Function.comp_def]
  cases owner.wiredProperties.find? fun property =>
    decide (property.visibility = .privateScope) <;> rfl

namespace SymbolTable

/-- Whether each annotated field of a class can be filled in. -/
def fills (table : SymbolTable) (owner : Declaration) : Bool :=
  owner.wiredProperties.all fun property =>
    (table.compileField owner (table.routeKind owner) property).toOption.isSome

/-- The statements of the annotated fields of a class, one field after another. -/
def fillings (table : SymbolTable) (owner : Declaration) : List Statement :=
  (owner.wiredProperties.filterMap fun property =>
    (table.compileField owner (table.routeKind owner) property).toOption).flatten

/-- The injector of a class, which fills in its annotated fields one after another. -/
def wiredUnit (table : SymbolTable) (owner : Declaration) : GeneratedUnit where
  key := .injector owner.asType
  body := .injector { target := owner.asType, statements := table.fillings owner }
  originating := [owner.qualifiedName]

/-- The injectors of those of the classes whose fields can all be filled in. -/
def wiredUnits (table : SymbolTable) (owners : List Declaration) : List GeneratedUnit :=
  (owners.filter table.fills).map table.wiredUnit

theorem injectorOf_eq (table : SymbolTable) (owner : Declaration) :
    (table.injectorOf owner).toOption =
      if table.fills owner then some ⟨owner.asType, table.fillings owner⟩ else none := by
  have blocks := toOption_mapM (table.compileField owner (table.routeKind owner))
    owner.wiredProperties
  rw [injectorOf, compileInjector, owner.injected_eq, fills, fillings]
  cases made : owner.wiredProperties.mapM (table.compileField owner (table.routeKind owner)) with
  | error =>
      rw [made] at blocks
      split at blocks <;> simp_all [bind, Except.bind, Except.toOption]
  | ok =>
      rw [made] at blocks
      split at blocks <;> simp_all [bind, Except.bind, pure, Except.pure, Except.toOption]

theorem unit_fillings (table : SymbolTable) (owner : Declaration) :
    InjectorPlan.unit ⟨owner.asType, table.fillings owner⟩ = table.wiredUnit owner := by
  rw [wiredUnit, GeneratedUnit.mk.injEq]
  exact ⟨InjectorPlan.key_unit, InjectorPlan.body_unit, InjectorPlan.originating_unit⟩

theorem units_injectorOf (table : SymbolTable) (owners : List Declaration) :
    (owners.filterMap fun owner => (table.injectorOf owner).toOption).map InjectorPlan.unit =
      table.wiredUnits owners := by
  induction owners with
  | nil => rfl
  | cons owner rest ih =>
      rw [List.filterMap_cons, injectorOf_eq, wiredUnits, List.filter_cons]
      cases table.fills owner with
      | true => exact congrArg₂ List.cons (table.unit_fillings owner) ih
      | false => exact ih

theorem forM_checkAccess (owner : Declaration) (properties : List Property) :
    properties.forM (checkAccess owner) =
      match properties.find? fun property => decide (property.visibility = .privateScope) with
      | none => .ok ()
      | some property => .error (.inaccessibleField property.name owner.qualifiedName) := by
  induction properties with
  | nil => rfl
  | cons property rest ih =>
      change (checkAccess owner property >>= fun _ => rest.forM (checkAccess owner)) = _
      rw [List.find?_cons, ih]
      by_cases closed : property.visibility = .privateScope <;>
        simp [checkAccess, closed, bind, Except.bind]

/-- Access is checked up to the first private field. -/
theorem checkOwners_eq (owners : List Declaration) :
    checkOwners owners = match firstHidden? owners with
      | none => .ok ()
      | some (owner, property) =>
        .error (.inaccessibleField property.name owner.qualifiedName) := by
  induction owners with
  | nil => rfl
  | cons owner rest ih =>
      change (owner.injected.forM (checkAccess owner) >>= fun _ => checkOwners rest) = _
      rw [forM_checkAccess, ih, firstHidden?_cons, owner.injected_eq]
      cases owner.wiredProperties.find? fun property =>
        decide (property.visibility = .privateScope) <;> rfl

section Perm

variable {table other : SymbolTable}

theorem owners_of_perm (perm : other.declarations.Perm table.declarations) :
    other.owners = table.owners :=
  owners_eq ((other.owners_perm.trans (perm.filter _)).trans table.owners_perm.symm)
    other.owners_ascending table.owners_ascending

theorem alike_of_perm (perm : other.declarations.Perm table.declarations) (decl : Declaration) :
    Alike other table decl :=
  alike_of_supertypeNames (supertypeNames_of_perm perm) decl

theorem injectorLog_of_perm (perm : other.declarations.Perm table.declarations) :
    other.injectorLog = table.injectorLog := by
  funext owner
  rw [injectorLog, injectorLog, (alike_of_perm perm owner).injectorOf]

end Perm

end SymbolTable

namespace Pipeline

variable {σ : Type} {pipeline : Pipeline} {sink : Sink σ} {table other : SymbolTable} {state : σ}

theorem injectorOffer_eq (table : SymbolTable) :
    injectorOffer table = match firstHidden? (resolvedOnes table.owners) with
      | none => table.wiredUnits (resolvedOnes table.owners)
      | some _ => [] := by
  rw [injectorOffer, SymbolTable.checkOwners_eq]
  cases firstHidden? (resolvedOnes table.owners) with
  | none => exact table.units_injectorOf _
  | some => rfl

theorem dropped_eq (table : SymbolTable) (owners : List Declaration) :
    (owners.countP fun owner => (table.injectorOf owner).toOption.isNone) =
      owners.countP fun owner => !table.fills owner := by
  refine List.countP_congr fun owner _ => ?_
  rw [SymbolTable.injectorOf_eq]
  cases table.fills owner <;> simp

theorem runInjectors_of_perm (perm : other.declarations.Perm table.declarations) :
    pipeline.runInjectors sink other state = pipeline.runInjectors sink table state := by
  have injectors : other.injectorOf = table.injectorOf :=
    funext fun owner => (SymbolTable.alike_of_perm perm owner).injectorOf
  simp only [runInjectors, SymbolTable.owners_of_perm perm, injectors,
    SymbolTable.injectorLog_of_perm perm]

end Pipeline

/-- What a round makes of the injected fields of a table, where the classes that they belong to are
    the given ones. -/
structure WiringLaw {σ : Type} (pipeline : Pipeline) (sink : Sink σ) (table : SymbolTable)
    (state : σ) (owners : List Declaration) (round : InjectorRound σ) : Prop where
  mem_iff : ∀ decl, decl ∈ owners ↔ decl ∈ table.declarations ∧ decl.resolved = true ∧
    ∃ property ∈ decl.properties, property.wire.isSome = true ∨ property.param.isSome = true
  ascending : owners.Pairwise fun a b => a.qualifiedName < b.qualifiedName
  found : round.report.found = (wiredFields owners).length
  /-- A private field is the end of it. -/
  hidden : ∀ owner property, firstHidden? owners = some (owner, property) →
    round.report.fatal = some (.inaccessibleField property.name owner.qualifiedName) ∧
      round.report.dropped = 0 ∧ round.report.emitted = {} ∧ round.state = state
  /-- Otherwise each class stands for itself. -/
  opened : firstHidden? owners = none →
    round.report.fatal = none ∧
      (round.report.dropped = owners.countP fun owner => !table.fills owner) ∧
      round.report.emitted =
        (pipeline.language.emit sink state (table.wiredUnits owners)).report ∧
      round.state = (pipeline.language.emit sink state (table.wiredUnits owners)).state
  /-- The declarations may come in any order. -/
  unordered : ∀ other : SymbolTable, other.declarations.Perm table.declarations →
    resolvedOnes other.owners = owners ∧ other.wiredUnits owners = table.wiredUnits owners ∧
      pipeline.runInjectors sink other state = round

theorem wiringLaw_of_table {σ : Type} (pipeline : Pipeline) (sink : Sink σ) (table : SymbolTable)
    (state : σ) :
    WiringLaw pipeline sink table state (resolvedOnes table.owners)
      (pipeline.runInjectors sink table state) := by
  constructor
  case mem_iff =>
    intro decl
    have wired : decl.injected ≠ [] ↔ ∃ property ∈ decl.properties,
        property.wire.isSome = true ∨ property.param.isSome = true := by
      simp only [Declaration.injected, Property.isMarked, ne_eq, List.filter_eq_nil_iff,
        Bool.or_eq_true, not_forall, not_not, exists_prop]
    rw [resolvedOnes, List.mem_filter, SymbolTable.mem_owners, wired, and_right_comm, and_assoc]
  case ascending => exact table.owners_ascending.filter _
  case found =>
    rw [Pipeline.report_runInjectors]
    simp [wiredFields, List.length_flatMap, Declaration.injected_eq]
  case hidden =>
    intro owner property first
    rw [Pipeline.runInjectors_offer.1, Pipeline.report_runInjectors, Pipeline.injectorOffer_eq,
      SymbolTable.checkOwners_eq, first]
    exact ⟨rfl, rfl, rfl, rfl⟩
  case opened =>
    intro none
    rw [Pipeline.runInjectors_offer.1, Pipeline.report_runInjectors, Pipeline.injectorOffer_eq,
      SymbolTable.checkOwners_eq, none]
    exact ⟨rfl, Pipeline.dropped_eq table _, rfl, rfl⟩
  case unordered =>
    intro other perm
    refine ⟨by rw [SymbolTable.owners_of_perm perm], ?_, Pipeline.runInjectors_of_perm perm⟩
    rw [← SymbolTable.units_injectorOf, ← SymbolTable.units_injectorOf]
    simp only [(SymbolTable.alike_of_perm perm _).injectorOf]

end RouteAtlas
