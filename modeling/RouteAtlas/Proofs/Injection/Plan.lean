import RouteAtlas.Injection.Dispatch
import RouteAtlas.Proofs.Except

/-! # Plans of injectors

A plan is made field by field: it is there if every field can be filled in, and then it is the
statements of the fields, one field after another.
-/

namespace RouteAtlas

namespace SymbolTable

theorem compileInjector_eq_ok_iff {table : SymbolTable} {owner : Declaration}
    {properties : List Property} {plan : InjectorPlan} :
    table.compileInjector owner properties = .ok plan ↔
      ∃ blocks, List.Forall₂
          (fun property block =>
            table.compileField owner (table.routeKind owner) property = .ok block)
          properties blocks ∧
        plan = ⟨owner.asType, blocks.flatten⟩ := by
  unfold compileInjector
  cases made : properties.mapM (table.compileField owner (table.routeKind owner)) with
  | error =>
      simp only [bind, Except.bind, reduceCtorEq, false_iff, not_exists, not_and]
      intro blocks compiled
      rw [mapM_eq_ok_iff.mpr compiled] at made
      cases made
  | ok blocks =>
      simp only [bind, Except.bind, pure, Except.pure, Except.ok.injEq]
      constructor
      · rintro rfl
        exact ⟨blocks, mapM_eq_ok_iff.mp made, rfl⟩
      · rintro ⟨others, compiled, rfl⟩
        rw [mapM_eq_ok_iff.mpr compiled] at made
        cases made
        rfl

/-- Every statement of a plan fills in one of the fields. -/
theorem mem_compileInjector {table : SymbolTable} {owner : Declaration}
    {properties : List Property} {plan : InjectorPlan}
    (made : table.compileInjector owner properties = .ok plan) {statement : Statement} :
    statement ∈ plan.statements ↔
      ∃ property ∈ properties, ∃ block,
        table.compileField owner (table.routeKind owner) property = .ok block ∧
          statement ∈ block := by
  obtain ⟨blocks, compiled, rfl⟩ := compileInjector_eq_ok_iff.mp made
  clear made
  induction compiled with
  | nil => simp
  | cons first _ ih => simp [ih, first]

/-- What can become of one field: a private one is refused, a capability is looked up, and any
    other value is read if the class takes parameters. -/
theorem compileField_eq_ok_iff {table : SymbolTable} {owner : Declaration} {kind : RouteKind}
    {property : Property} {statements : List Statement} :
    table.compileField owner kind property = .ok statements ↔
      property.visibility ≠ .privateScope ∧
        match property.directive with
        | none => [] = statements
        | some mark =>
          if table.isProvider property.type then lookupStatements owner property mark = statements
          else ∃ source, kind.paramSource? = some source ∧
            readStatements owner property mark (table.valueKind property.type) source =
              statements := by
  unfold compileField checkAccess
  by_cases hidden : property.visibility = .privateScope
  · simp [hidden]
  · simp only [hidden, if_false, ne_eq, not_false_eq_true, true_and]
    cases property.directive with
    | none => simp
    | some mark =>
        simp only
        split
        · simp
        · cases kind.paramSource? <;> simp

end SymbolTable

end RouteAtlas
