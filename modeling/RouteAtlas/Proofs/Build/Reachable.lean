import RouteAtlas.Delivery
import RouteAtlas.Proofs.Round.Again

/-! # Builds that can be reached

The routes and interceptors of a build come about by insertions, whatever the sinks of its rounds
refuse.
-/

namespace RouteAtlas

/-- The routes and interceptors of a build are what insertions lead to. -/
structure BuildState.Reachable (build : BuildState) : Prop where
  routes : ∃ history, RouteTable.Reached history build.routes
  hooks : HookTable.Reached build.hooks

namespace BuildState.Reachable

variable {build : BuildState} (reachable : build.Reachable)

theorem start : BuildState.Reachable {} where
  routes := ⟨[], .empty⟩
  hooks := .empty

include reachable

theorem wellFormed_routes : build.routes.WellFormed := by
  obtain ⟨history, reached⟩ := reachable.routes
  exact reached.wellFormed

theorem wellFormed_hooks : build.hooks.WellFormed :=
  reachable.hooks.wellFormed

theorem stagedRoutes (table : SymbolTable) :
    ∃ history, RouteTable.Reached history (table.stagedRoutes build.routes) := by
  obtain ⟨history, reached⟩ := reachable.routes
  exact ⟨_, reached.insertAll _⟩

theorem joinedHooks (table : SymbolTable) : HookTable.Reached (table.joinedHooks build.hooks) := by
  cases outcome : (table.stagedHooks build.hooks).fatal with
  | some error =>
      rw [SymbolTable.joinedHooks_of_fatal outcome]
      exact reachable.hooks
  | none =>
      rw [SymbolTable.joinedHooks_of_sound outcome]
      exact reachable.hooks.insertAll (SymbolTable.fatal_takeHooks_eq_none_iff.mp outcome)

variable {σ : Type} (pipeline : Pipeline) (sink : Sink σ)

theorem runRound (table : SymbolTable) (state : σ) :
    (pipeline.runRound sink build table state).1.state.Reachable where
  routes := by
    simp only [Pipeline.runRound, Pipeline.routes_runRoutes]
    split
    · exact reachable.stagedRoutes table
    · exact reachable.routes
  hooks := by
    simp only [Pipeline.runRound, Pipeline.hooks_runHooks]
    split
    · exact reachable.joinedHooks table
    · exact reachable.hooks

end BuildState.Reachable

/-! A build that holds an interceptor, and a round in which it has moved to another priority. -/
namespace Moved

def guard : Declaration :=
  { qualifiedName := "app.Login"
    supertypes := [.named Contract.interceptor]
    marks := { hook := some { priority := 2 } } }

def table : SymbolTable :=
  .ofList [guard]

def hook (priority : Int) : HookRecord :=
  { priority, target := .named "app.Login" }

def hooks (priority : Int) : HookTable :=
  ⟨SortedMap.empty.insert priority (hook priority)⟩

def build : BuildState :=
  { hooks := hooks 1 }

def pipeline : Pipeline :=
  { options := { moduleName := some "app" } }

theorem reachable_build : build.Reachable :=
  ⟨⟨[], .empty⟩, .insert (hook 1) .empty rfl⟩

/-- The interceptor joins those of a build at its new priority. -/
theorem stagedHooks_of_guard {table : SymbolTable} (found : resolvedOnes table.hooks = [guard])
    (unknown : table.resolve Contract.interceptor = none) {before after : HookTable}
    (inserted : before.insert (hook 2) = .ok after) :
    (table.stagedHooks before).table = after ∧ (table.stagedHooks before).fatal = none := by
  have marked : guard.marks.hook = some { priority := 2 } := rfl
  exact SymbolTable.stagedHooks_of_single found
    (SymbolTable.hookOf_of_unknown marked rfl (by decide) unknown) inserted

theorem hookOffer_of_guard {table : SymbolTable} (found : resolvedOnes table.hooks = [guard])
    (pending : pendingOnes table.hooks = [])
    (unknown : table.resolve Contract.interceptor = none) {before after : HookTable}
    (inserted : before.insert (hook 2) = .ok after) :
    pipeline.hookOffer table before = [after.unit "app"] := by
  obtain ⟨staged, sound⟩ := stagedHooks_of_guard found unknown inserted
  unfold Pipeline.hookOffer
  rw [staged, sound, found, pending]
  rfl

theorem hookOffer_of_insert {before after : HookTable}
    (inserted : before.insert (hook 2) = .ok after) :
    pipeline.hookOffer table before = [after.unit "app"] :=
  hookOffer_of_guard (by decide +kernel) (by decide +kernel) (by decide +kernel) inserted

/-- What is emitted in the round is the table of the interceptor. -/
theorem emitted_reports {σ : Type} (sink : Sink σ) (state : σ) :
    (pipeline.runRound sink build table state).1.reports.map Report.emitted =
      [{}, (pipeline.language.emit sink state [(hooks 2).unit "app"]).report, {}] := by
  simp only [Pipeline.runRound, List.map_cons, List.map_nil]
  rw [Pipeline.runInjectors_offer.2, (Pipeline.runHooks_offer _).1, (Pipeline.runHooks_offer _).2,
    (Pipeline.runRoutes_offer _).1, (Pipeline.runRoutes_offer _).2, hookOffer_of_insert rfl]
  rfl

end Moved

end RouteAtlas
