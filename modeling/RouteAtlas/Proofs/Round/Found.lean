import RouteAtlas.Proofs.Round.Hooks
import RouteAtlas.Proofs.Route.Arrival
import RouteAtlas.Proofs.Route.Extract

/-! # What a round finds

The routes and interceptors that a round takes over come from classes with distinct names, so no
two of them lead to one class.
-/

namespace RouteAtlas.SymbolTable

variable {table : SymbolTable} {decls : List Declaration}

/-- The form in which the route of an annotated class is filed, if it is valid. -/
def acceptedRoute? (table : SymbolTable) (decl : Declaration) : Option RouteRecord :=
  (table.extractRoute decl).toOption.bind fun record => record.validate.toOption

/-- The valid routes of annotated classes, in order. -/
def acceptedRoutes (table : SymbolTable) (decls : List Declaration) : List RouteRecord :=
  decls.filterMap table.acceptedRoute?

theorem accepted_extractRoutes (table : SymbolTable) (decls : List Declaration) :
    RouteTable.accepted (table.extractRoutes decls).records = table.acceptedRoutes decls :=
  List.filterMap_filterMap

theorem acceptedRoute?_eq_some {table : SymbolTable} {decl : Declaration} {record : RouteRecord}
    (made : table.acceptedRoute? decl = some record) :
    ∃ mark, decl.marks.route = some mark ∧ record.path = mark.path ∧
      record.target = decl.asType := by
  obtain ⟨raw, extracted, passed⟩ := Option.bind_eq_some_iff.mp made
  rw [toOption_eq_some_iff] at extracted passed
  obtain ⟨-, group, -, -, rfl⟩ := RouteRecord.validate_eq_ok_iff.mp passed
  obtain ⟨mark, marked, path, target⟩ := mark_of_extractRoute extracted
  exact ⟨mark, marked, path, target⟩

theorem distinct_filter (table : SymbolTable) (mark : Declaration → Bool) :
    (declarationNames (table.declarations.filter mark)).Nodup :=
  table.distinct.sublist (List.filter_sublist.map _)

theorem distinct_resolvedOnes (distinct : (declarationNames decls).Nodup) :
    (declarationNames (resolvedOnes decls)).Nodup :=
  distinct.sublist (List.filter_sublist.map _)

theorem nodup_acceptedRoutes (distinct : (declarationNames decls).Nodup) :
    ((table.acceptedRoutes decls).map RouteRecord.target).Nodup := by
  refine nodup_targets (fun made => ?_) distinct
  obtain ⟨mark, -, -, target⟩ := acceptedRoute?_eq_some made
  exact target

theorem nodup_acceptedHooks (distinct : (declarationNames decls).Nodup) :
    ((table.acceptedHooks decls).map HookRecord.target).Nodup := by
  refine nodup_targets (fun made => ?_) distinct
  obtain ⟨mark, -, -, target⟩ := hookOf_eq_some made
  exact target

end RouteAtlas.SymbolTable
