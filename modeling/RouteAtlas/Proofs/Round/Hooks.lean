import Mathlib.Data.List.Nodup
import RouteAtlas.Proofs.Classification.Ancestors
import RouteAtlas.Proofs.Except
import RouteAtlas.Proofs.SortedMap
import RouteAtlas.Round.Hooks

/-! # Interceptors in any order

Interceptors of different classes with different priorities never clash, and the table that they
lead to does not depend on the order in which they are inserted.
-/

namespace RouteAtlas

/-- The interceptor that a class with the given annotation is. -/
def HookMark.record (mark : HookMark) (decl : Declaration) : HookRecord :=
  ⟨mark.priority, decl.asType, given? mark.name⟩

namespace HookTable

/-- The table holds the given interceptors, each under its priority. -/
def Holds (table : HookTable) (hooks : List HookRecord) : Prop :=
  ∀ priority hook, table.byPriority.get? priority = some hook ↔
    hook ∈ hooks ∧ hook.priority = priority

namespace Holds

variable {table other : HookTable} {hooks others : List HookRecord} {hook : HookRecord}

theorem empty : HookTable.empty.Holds [] := by
  intro priority hook
  simp [HookTable.empty]

theorem eq (holds : table.Holds hooks) (otherHolds : other.Holds others)
    (perm : hooks.Perm others) : table = other := by
  have same : table.byPriority = other.byPriority := by
    refine SortedMap.ext_get? fun priority => Option.ext fun hook => ?_
    rw [holds, otherHolds, perm.mem_iff]
  cases table
  cases other
  rw [HookTable.mk.injEq]
  exact same

/-- An interceptor is added if neither its priority nor its class is there yet. -/
theorem insert (holds : table.Holds hooks)
    (priority : hook.priority ∉ hooks.map HookRecord.priority)
    (target : hook.target ∉ hooks.map HookRecord.target) :
    ∃ after, table.insert hook = .ok after ∧ after.Holds (hooks ++ [hook]) := by
  have vacant : table.byPriority.get? hook.priority = none := by
    cases found : table.byPriority.get? hook.priority with
    | none => rfl
    | some held =>
        obtain ⟨member, same⟩ := (holds _ _).mp found
        rw [← same] at priority
        exact absurd (List.mem_map_of_mem member) priority
  have others :
      (table.byPriority.filter fun _ held => decide (held.target ≠ hook.target)) =
        table.byPriority := by
    refine SortedMap.ext (List.filter_eq_self.mpr ?_)
    rintro ⟨key, held⟩ entry
    rw [decide_eq_true_eq]
    intro same
    obtain ⟨member, -⟩ := (holds _ _).mp (SortedMap.get?_eq_some_iff.mpr entry)
    rw [← same] at target
    exact target (List.mem_map_of_mem member)
  refine ⟨⟨table.byPriority.insert hook.priority hook⟩, ?_, ?_⟩
  · simp only [HookTable.insert, vacant, others]
  · intro key held
    rw [SortedMap.get?_insert, List.mem_append, List.mem_singleton]
    split
    · rename_i here
      subst here
      constructor
      · intro same
        cases same
        exact ⟨.inr rfl, rfl⟩
      · rintro ⟨member | rfl, same⟩
        · rw [← same] at priority
          exact absurd (List.mem_map_of_mem member) priority
        · rfl
    · rename_i elsewhere
      rw [holds]
      constructor
      · rintro ⟨member, same⟩
        exact ⟨.inl member, same⟩
      · rintro ⟨member | rfl, same⟩
        · exact ⟨member, same⟩
        · exact absurd same.symm elsewhere

end Holds

end HookTable

namespace SymbolTable

/-- The interceptors among annotated classes, in order. -/
def acceptedHooks (table : SymbolTable) (decls : List Declaration) : List HookRecord :=
  decls.filterMap fun decl => (table.hookOf decl).toOption

section Cons

variable {table : SymbolTable} {decl : Declaration}

theorem acceptedHooks_cons_error {error : BuildError} (made : table.hookOf decl = .error error)
    (rest : List Declaration) :
    table.acceptedHooks (decl :: rest) = table.acceptedHooks rest :=
  List.filterMap_cons_none (by rw [made]; rfl)

theorem acceptedHooks_cons_ok {hook : HookRecord} (made : table.hookOf decl = .ok hook)
    (rest : List Declaration) :
    table.acceptedHooks (decl :: rest) = hook :: table.acceptedHooks rest :=
  List.filterMap_cons_some (by rw [made]; rfl)

end Cons

section HookOf

variable {table : SymbolTable} {decl : Declaration} {hook : HookRecord}

theorem hookOf_eq_ok_iff : table.hookOf decl = .ok hook ↔
    ∃ mark, decl.marks.hook = some mark ∧ table.implements decl Contract.interceptor = true ∧
      hook = mark.record decl := by
  unfold hookOf
  cases marked : decl.marks.hook with
  | none => simp
  | some mark =>
      by_cases keeps : table.implements decl Contract.interceptor = true
      · simp [keeps, HookMark.record, eq_comm]
      · simp [keeps]

theorem hookOf_eq_some (made : (table.hookOf decl).toOption = some hook) :
    ∃ mark, decl.marks.hook = some mark ∧ hook.priority = mark.priority ∧
      hook.target = decl.asType := by
  obtain ⟨mark, marked, -, rfl⟩ := hookOf_eq_ok_iff.mp (toOption_eq_some_iff.mp made)
  exact ⟨mark, marked, rfl, rfl⟩

/-- A class that names the contract of interceptors alone keeps it. -/
theorem hookOf_of_unknown {mark : HookMark} (marked : decl.marks.hook = some mark)
    (single : decl.supertypes = [.named Contract.interceptor])
    (other : Contract.interceptor ≠ decl.qualifiedName)
    (unknown : table.resolve Contract.interceptor = none) :
    table.hookOf decl = .ok (mark.record decl) := by
  have implements : table.implements decl Contract.interceptor = true := by
    rw [implements, firstMatch_of_unknown single other unknown]
    decide
  exact hookOf_eq_ok_iff.mpr ⟨mark, marked, implements, rfl⟩

end HookOf

/-- Interceptors that differ in class and priority are all taken. -/
theorem takeHooks_holds {table : SymbolTable} {staged : HookTable} {held : List HookRecord}
    {decls : List Declaration} (holds : staged.Holds held)
    (priorities : ((held ++ table.acceptedHooks decls).map HookRecord.priority).Nodup)
    (targets : ((held ++ table.acceptedHooks decls).map HookRecord.target).Nodup) :
    (table.takeHooks staged decls).fatal = none ∧
      (table.takeHooks staged decls).table.Holds (held ++ table.acceptedHooks decls) := by
  induction decls generalizing staged held with
  | nil =>
      rw [acceptedHooks, List.filterMap_nil, List.append_nil]
      exact ⟨rfl, holds⟩
  | cons decl rest ih =>
      cases made : table.hookOf decl with
      | error =>
          rw [acceptedHooks_cons_error made] at priorities targets ⊢
          simp only [takeHooks, made]
          exact ih holds priorities targets
      | ok hook =>
          have absent : ∀ {ν : Type} (f : HookRecord → ν),
              ((held ++ hook :: table.acceptedHooks rest).map f).Nodup → f hook ∉ held.map f := by
            intro ν f distinct known
            rw [List.map_append, List.map_cons] at distinct
            exact (List.nodup_append.mp distinct).2.2 _ known _ List.mem_cons_self rfl
          rw [acceptedHooks_cons_ok made] at priorities targets ⊢
          obtain ⟨after, inserted, afterHolds⟩ :=
            holds.insert (absent _ priorities) (absent _ targets)
          rw [List.append_cons] at priorities targets ⊢
          simp only [takeHooks, made, inserted]
          exact ih afterHolds priorities targets

end SymbolTable

end RouteAtlas
