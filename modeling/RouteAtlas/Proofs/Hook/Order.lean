import RouteAtlas.Proofs.Hook.Insertion

/-! # The order of interceptors

Interceptors that move to other priorities may meet classes that have yet to move away from them.
So the order in which they are inserted decides whether they pass, though never what they lead to.
-/

namespace RouteAtlas.HookTable

variable {table after last : HookTable} {hooks order other : List HookRecord}

/-- The interceptors of a table, with the given ones in place of what their classes had. -/
def overriding (table : HookTable) (hooks : List HookRecord) : List HookRecord :=
  (table.hooks.filter fun held => decide (held.target ∉ hooks.map HookRecord.target)) ++ hooks

/-- The first interceptor asks for the priority that the class of the second one has. -/
def Takes (table : HookTable) (first second : HookRecord) : Prop :=
  ∃ held ∈ table.hooks, held.target = second.target ∧ held.priority = first.priority

theorem WellFormed.filed (wellFormed : table.WellFormed) :
    ∀ entry ∈ table.byPriority.entries, entry.2.priority = entry.1 := fun _ member =>
  ((wellFormed.keyed _ _).mp (SortedMap.get?_eq_some_iff.mpr member)).2

theorem WellFormed.ascending (wellFormed : table.WellFormed) :
    table.hooks.Pairwise fun first second => first.priority < second.priority := by
  rw [HookTable.hooks, SortedMap.values, List.pairwise_map]
  refine table.byPriority.ascending.imp_of_mem fun {first second} firstIn secondIn below => ?_
  rwa [wellFormed.filed first firstIn, wellFormed.filed second secondIn]

theorem WellFormed.nodup_priorities (wellFormed : table.WellFormed) :
    (table.hooks.map HookRecord.priority).Nodup := by
  have entries : table.hooks.map HookRecord.priority = table.byPriority.keys := by
    rw [hooks, SortedMap.values, SortedMap.keys, List.map_map]
    exact List.map_congr_left wellFormed.filed
  rw [entries]
  exact table.byPriority.nodup_keys

theorem WellFormed.nodup_targets (wellFormed : table.WellFormed) :
    (table.hooks.map HookRecord.target).Nodup :=
  wellFormed.nodup_priorities.of_map.map_on fun _ hookIn _ otherIn =>
    wellFormed.single hookIn otherIn

theorem nodup_overriding_iff (wellFormed : table.WellFormed) :
    ((table.overriding hooks).map HookRecord.priority).Nodup ↔
      (∀ hook ∈ hooks, ∀ held ∈ table.hooks, held.target ∉ hooks.map HookRecord.target →
        held.priority ≠ hook.priority) ∧
      hooks.Pairwise fun first second => first.priority ≠ second.priority := by
  have staying := wellFormed.nodup_priorities.sublist
    ((List.filter_sublist (p := fun held => decide (held.target ∉ hooks.map HookRecord.target))).map
      HookRecord.priority)
  have apart : (hooks.map HookRecord.priority).Nodup ↔
      hooks.Pairwise fun first second => first.priority ≠ second.priority := List.pairwise_map
  rw [overriding, List.map_append, List.nodup_append, apart]
  simp only [List.forall_mem_map, List.mem_filter, decide_eq_true_eq]
  constructor
  · rintro ⟨-, apart, differ⟩
    exact ⟨fun hook member held heldIn unknown => differ held ⟨heldIn, unknown⟩ hook member, apart⟩
  · rintro ⟨differ, apart⟩
    exact ⟨staying, apart, fun held known hook member => differ hook member held known.1 known.2⟩

theorem passing_iff (wellFormed : table.WellFormed) :
    table.Passing hooks ↔ ((table.overriding hooks).map HookRecord.priority).Nodup ∧
      hooks.Pairwise fun first second => ¬table.Takes first second := by
  have free : ∀ first second, ¬table.Takes first second ↔ ∀ held ∈ table.hooks,
      held.target = second.target → held.priority ≠ first.priority := by
    simp [Takes]
  simp only [nodup_overriding_iff wellFormed, free]
  constructor
  · rintro ⟨staying, apart, leaving⟩
    exact ⟨⟨staying, apart⟩, leaving⟩
  · rintro ⟨⟨staying, apart⟩, leaving⟩
    exact ⟨staying, apart, leaving⟩

theorem overriding_perm (perm : order.Perm hooks) :
    (table.overriding order).Perm (table.overriding hooks) := by
  have same : (fun held : HookRecord => decide (held.target ∉ order.map HookRecord.target)) =
      fun held => decide (held.target ∉ hooks.map HookRecord.target) := by
    funext held
    exact decide_eq_decide.mpr (perm.map HookRecord.target).mem_iff.not
  rw [overriding, overriding, same]
  exact perm.append_left _

/-- What becomes of interceptors of different classes, whatever their order. -/
structure OrderLaw (table : HookTable) (hooks : List HookRecord) : Prop where
  /-- An order passes if no two classes share a priority in the end, and none asks for a priority
      before the class that has it was inserted anew. -/
  accepts : ∀ {order}, order.Perm hooks → ((∃ after, table.insertAll order = .ok after) ↔
    ((table.overriding hooks).map HookRecord.priority).Nodup ∧
      order.Pairwise fun first second => ¬table.Takes first second)
  every : (∀ order, order.Perm hooks → ∃ after, table.insertAll order = .ok after) ↔
    ((table.overriding hooks).map HookRecord.priority).Nodup ∧
      ∀ first ∈ hooks, ∀ second ∈ hooks, table.Takes first second → first = second
  agree : ∀ {order other after last}, order.Perm hooks → other.Perm hooks →
    table.insertAll order = .ok after → table.insertAll other = .ok last → after = last
  holds : ∀ {order after}, order.Perm hooks → table.insertAll order = .ok after → ∀ held,
    held ∈ after.hooks ↔
      (held ∈ table.hooks ∧ ∀ hook ∈ hooks, hook.target = held.target →
        hook.priority = held.priority) ∨
      (held ∈ hooks ∧ ¬table.Takes held held)
  /-- A round inserts the interceptors of its classes in this way. -/
  rounds : ∀ (symbols : SymbolTable) (decls : List Declaration),
    (symbols.takeHooks table decls).fatal = none ↔
      table.insertAll (symbols.acceptedHooks decls) = .ok (symbols.takeHooks table decls).table

section Order

variable (wellFormed : table.WellFormed) (distinct : (hooks.map HookRecord.target).Nodup)
include wellFormed distinct

theorem insertAll_ok_iff_of_perm (perm : order.Perm hooks) :
    (∃ after, table.insertAll order = .ok after) ↔
      ((table.overriding hooks).map HookRecord.priority).Nodup ∧
        order.Pairwise fun first second => ¬table.Takes first second := by
  have orderDistinct := (perm.map HookRecord.target).nodup_iff.mpr distinct
  rw [insertAll_ok_iff wellFormed orderDistinct, passing_iff wellFormed,
    ((overriding_perm perm).map HookRecord.priority).nodup_iff]

theorem mem_hooks_insertAll_of_perm (perm : order.Perm hooks)
    (inserted : table.insertAll order = .ok after) (held : HookRecord) :
    held ∈ after.hooks ↔
      (held ∈ table.hooks ∧ ∀ hook ∈ hooks, hook.target = held.target →
        hook.priority = held.priority) ∨
      (held ∈ hooks ∧ ¬table.Takes held held) := by
  have orderDistinct := (perm.map HookRecord.target).nodup_iff.mpr distinct
  rw [mem_hooks_insertAll wellFormed orderDistinct inserted]
  simp [perm.mem_iff, Takes]

/-- If one of two interceptors takes the priority of the other, then the order in which it comes
    first is refused. -/
theorem eq_of_takes (all : ∀ order, order.Perm hooks → ∃ after, table.insertAll order = .ok after)
    {first second : HookRecord} (firstIn : first ∈ hooks) (secondIn : second ∈ hooks)
    (takes : table.Takes first second) : first = second := by
  by_contra differ
  have perm : (first :: hooks.erase first).Perm hooks := (List.perm_cons_erase firstIn).symm
  obtain ⟨-, free⟩ := (insertAll_ok_iff_of_perm wellFormed distinct perm).mp (all _ perm)
  have later : second ∈ hooks.erase first := (List.mem_erase_of_ne (Ne.symm differ)).mpr secondIn
  exact (List.pairwise_cons.mp free).1 second later takes

theorem orderLaw_of_wellFormed : table.OrderLaw hooks where
  accepts := insertAll_ok_iff_of_perm wellFormed distinct
  every := by
    constructor
    · intro all
      refine ⟨((insertAll_ok_iff_of_perm wellFormed distinct (.refl hooks)).mp (all _ (.refl _))).1, ?_⟩
      exact fun _ firstIn _ secondIn => eq_of_takes wellFormed distinct all firstIn secondIn
    · rintro ⟨apart, free⟩ order perm
      refine (insertAll_ok_iff_of_perm wellFormed distinct perm).mpr ⟨apart, ?_⟩
      have orderDistinct := (perm.map HookRecord.target).nodup_iff.mpr distinct
      refine (List.pairwise_map.mp orderDistinct).imp_of_mem
        fun {first second} firstIn secondIn differ takes => differ ?_
      rw [free first (perm.mem_iff.mp firstIn) second (perm.mem_iff.mp secondIn) takes]
  agree := by
    intro order other after last perm otherPerm inserted otherInserted
    refine (wellFormed_insertAll wellFormed inserted).eq
      (wellFormed_insertAll wellFormed otherInserted) fun held => ?_
    rw [mem_hooks_insertAll_of_perm wellFormed distinct perm inserted,
      mem_hooks_insertAll_of_perm wellFormed distinct otherPerm otherInserted]
  holds := mem_hooks_insertAll_of_perm wellFormed distinct
  rounds := fun _ _ => SymbolTable.fatal_takeHooks_eq_none_iff

end Order

/-- Interceptors of different classes that are inserted into a table in any order. -/
theorem orderLaw_of_reached (reached : Reached table)
    (distinct : (hooks.map HookRecord.target).Nodup) : table.OrderLaw hooks :=
  orderLaw_of_wellFormed reached.wellFormed distinct

section Shift

private def login (priority : Int) : HookRecord :=
  { priority, target := .named "app.Login" }

private def audit (priority : Int) : HookRecord :=
  { priority, target := .named "app.Audit" }

private def shelf : HookTable :=
  ⟨(SortedMap.empty.insert 1 (login 1)).insert 2 (audit 2)⟩

private theorem reached_shelf : Reached shelf :=
  .insert (audit 2) (.insert (login 1) .empty rfl) rfl

/-- Two interceptors move up by one, the last one first. -/
theorem orderLaw_of_shift :
    Reached shelf ∧ (([audit 3, login 2] : List HookRecord).map HookRecord.target).Nodup ∧
      shelf.OrderLaw [audit 3, login 2] ∧
      ∃ after, shelf.insertAll [audit 3, login 2] = .ok after ∧ after.hooks = [login 2, audit 3] :=
  ⟨reached_shelf, by decide, orderLaw_of_reached reached_shelf (by decide), _, rfl, by decide⟩

/-- No two classes end up with one priority, but one that moves first finds the other one there.
    Two that change places are refused in both orders. -/
theorem shift_in_order :
    Reached shelf ∧ (([login 2, audit 3] : List HookRecord).map HookRecord.target).Nodup ∧
      ((shelf.overriding [login 2, audit 3]).map HookRecord.priority).Nodup ∧
      [audit 3, login 2].Perm [login 2, audit 3] ∧
      shelf.insertAll [login 2, audit 3] =
        .error (.duplicatePriority 2 "app.Audit" "app.Login") ∧
      (∃ after, shelf.insertAll [audit 3, login 2] = .ok after) ∧
      ((shelf.overriding [login 2, audit 1]).map HookRecord.priority).Nodup ∧
      (¬∃ after, shelf.insertAll [login 2, audit 1] = .ok after) ∧
      ¬∃ after, shelf.insertAll [audit 1, login 2] = .ok after := by
  refine ⟨reached_shelf, by decide, by decide, .swap .., rfl, ⟨_, rfl⟩, by decide, ?_, ?_⟩
  · rintro ⟨after, inserted⟩
    cases inserted
  · rintro ⟨after, inserted⟩
    cases inserted

end Shift

end RouteAtlas.HookTable
