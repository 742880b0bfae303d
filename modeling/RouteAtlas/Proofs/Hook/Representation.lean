import RouteAtlas.Proofs.Hook.Order

/-! # How interceptors are held

A table holds each interceptor under its own priority and each class once, whatever was inserted
before. An insertion that is refused changes nothing, and one that passes changes nothing but the
place of its class.
-/

namespace RouteAtlas.HookTable

variable {table after : HookTable} {hook held : HookRecord} {hooks : List HookRecord}

/-- The answer to an insertion, and the table after it. One that is refused leaves the table. -/
def attempt (table : HookTable) (hook : HookRecord) : Except BuildError Unit × HookTable :=
  match table.insert hook with
  | .ok after => (.ok (), after)
  | .error error => (.error error, table)

/-- The table after insertions of which each may have been refused. -/
def attemptAll (table : HookTable) (hooks : List HookRecord) : HookTable :=
  hooks.foldl (fun current hook => (current.attempt hook).2) table

theorem attempt_ok_iff : table.attempt hook = (.ok (), after) ↔ table.insert hook = .ok after := by
  unfold attempt
  cases table.insert hook <;> simp

theorem attempt_error_iff {error : BuildError} :
    table.attempt hook = (.error error, after) ↔
      table.insert hook = .error error ∧ table = after := by
  unfold attempt
  cases table.insert hook <;> simp

theorem Reached.attempt (reached : Reached table) (hook : HookRecord) :
    Reached (table.attempt hook).2 := by
  unfold HookTable.attempt
  cases inserted : table.insert hook with
  | ok after => exact .insert hook reached inserted
  | error => exact reached

theorem Reached.attemptAll (reached : Reached table) (hooks : List HookRecord) :
    Reached (table.attemptAll hooks) := by
  induction hooks generalizing table with
  | nil => exact reached
  | cons hook rest ih => exact ih (reached.attempt hook)

/-- The classes of a table after an insertion: that of the interceptor is among them now. -/
theorem targets_insert_perm (wellFormed : table.WellFormed)
    (inserted : table.insert hook = .ok after) :
    (after.hooks.map HookRecord.target).Perm
      ((table.hooks.map HookRecord.target).insert hook.target) := by
  have afterOnce := (wellFormed_insert wellFormed inserted).nodup_targets
  refine (List.perm_ext_iff_of_nodup afterOnce wellFormed.nodup_targets.insert).mpr fun target => ?_
  obtain ⟨own, ownIn, ownTarget, -⟩ := exists_mem_hooks_insert wellFormed inserted
  rw [List.mem_insert_iff, List.mem_map, List.mem_map]
  by_cases here : target = hook.target
  · exact iff_of_true ⟨own, ownIn, ownTarget.trans here.symm⟩ (.inl here)
  · have others : ∀ held : HookRecord, held.target = target →
        (held ∈ after.hooks ↔ held ∈ table.hooks) := fun held same =>
      mem_hooks_insert_of_ne wellFormed inserted (same ▸ here)
    simp only [here, false_or]
    exact exists_congr fun held => and_congr_left fun same => others held same

theorem size_eq_length_targets (table : HookTable) :
    table.size = (table.hooks.map HookRecord.target).length := by
  rw [List.length_map, hooks, SortedMap.values, List.length_map]
  rfl

theorem size_insert (wellFormed : table.WellFormed) (inserted : table.insert hook = .ok after) :
    after.size =
      if hook.target ∈ table.hooks.map HookRecord.target then table.size else table.size + 1 := by
  rw [size_eq_length_targets, (targets_insert_perm wellFormed inserted).length_eq,
    size_eq_length_targets, List.length_insert]
  split <;> rfl

/-- What a table holds, and what an insertion makes of it. -/
structure InsertionLaw (table : HookTable) : Prop where
  ascending : table.hooks.Pairwise fun first second => first.priority < second.priority
  filed : ∀ entry ∈ table.byPriority.entries, entry.2.priority = entry.1
  once : (table.hooks.map HookRecord.target).Nodup
  /-- An insertion is refused exactly if another class holds the priority. -/
  refused_iff : ∀ hook, (∃ error, (table.attempt hook).1 = .error error) ↔
    ∃ holder ∈ table.hooks, holder.priority = hook.priority ∧ holder.target ≠ hook.target
  /-- Then the table stays, and the answer names that class and the one that was refused. -/
  refused : ∀ {hook error after}, table.attempt hook = (.error error, after) →
    after = table ∧ ∃ holder ∈ table.hooks,
      holder.priority = hook.priority ∧ holder.target ≠ hook.target ∧
      error = .duplicatePriority hook.priority holder.target.name hook.target.name
  /-- An insertion that passes leaves its class at the priority, and nowhere else. -/
  placed : ∀ {hook after}, table.attempt hook = (.ok (), after) →
    (∃ own ∈ after.hooks, own.target = hook.target ∧ own.priority = hook.priority) ∧
      ∀ held ∈ after.hooks, held.target = hook.target ↔ held.priority = hook.priority
  others : ∀ {hook after}, table.attempt hook = (.ok (), after) → ∀ held : HookRecord,
    held.target ≠ hook.target → (held ∈ after.hooks ↔ held ∈ table.hooks)
  /-- One interceptor more is held exactly if the class had none. -/
  size_eq : ∀ {hook after}, table.attempt hook = (.ok (), after) →
    after.size =
      if hook.target ∈ table.hooks.map HookRecord.target then table.size else table.size + 1

theorem refused_attempt_iff (wellFormed : table.WellFormed) :
    (∃ error, (table.attempt hook).1 = .error error) ↔
      ∃ holder ∈ table.hooks, holder.priority = hook.priority ∧ holder.target ≠ hook.target := by
  have passed : (∃ after, table.insert hook = .ok after) ↔ _ := insert_ok_iff wellFormed
  unfold attempt
  cases inserted : table.insert hook with
  | ok after =>
      have free := passed.mp ⟨after, inserted⟩
      simp only [reduceCtorEq, exists_false, false_iff, not_exists, not_and, not_not]
      exact free
  | error error =>
      obtain ⟨holder, holderIn, same, other, -⟩ := insert_eq_error wellFormed inserted
      exact iff_of_true ⟨error, rfl⟩ ⟨holder, holderIn, same, other⟩

/-- An interceptor of the table after an insertion has the priority exactly if its class was
    inserted. -/
theorem target_eq_iff_priority_eq (wellFormed : table.WellFormed)
    (inserted : table.insert hook = .ok after) (member : held ∈ after.hooks) :
    held.target = hook.target ↔ held.priority = hook.priority := by
  have formed := wellFormed_insert wellFormed inserted
  obtain ⟨own, ownIn, ownTarget, ownPriority⟩ := exists_mem_hooks_insert wellFormed inserted
  constructor
  · intro same
    rw [formed.single member ownIn (same.trans ownTarget.symm), ownPriority]
  · intro same
    rw [formed.eq_of_priority member ownIn (same.trans ownPriority.symm), ownTarget]

theorem WellFormed.insertionLaw (wellFormed : table.WellFormed) : table.InsertionLaw where
  ascending := wellFormed.ascending
  filed := wellFormed.filed
  once := wellFormed.nodup_targets
  refused_iff := fun _ => refused_attempt_iff wellFormed
  refused := by
    intro hook error after refused
    obtain ⟨inserted, same⟩ := attempt_error_iff.mp refused
    exact ⟨same.symm, insert_eq_error wellFormed inserted⟩
  placed := by
    intro hook after passed
    have inserted := attempt_ok_iff.mp passed
    exact ⟨exists_mem_hooks_insert wellFormed inserted,
      fun held member => target_eq_iff_priority_eq wellFormed inserted member⟩
  others := fun passed _ other =>
    mem_hooks_insert_of_ne wellFormed (attempt_ok_iff.mp passed) other
  size_eq := fun passed => size_insert wellFormed (attempt_ok_iff.mp passed)

/-- Of two classes the second one is refused the priority of the first, then goes elsewhere, and the
    first one moves down. -/
example :
    let login (priority : Int) : HookRecord := { priority, target := .named "app.Login" }
    let audit (priority : Int) : HookRecord := { priority, target := .named "app.Audit" }
    (empty.attemptAll [login 2, audit 2, audit 3, login 1, audit 3]).hooks = [login 1, audit 3] := by
  decide

end RouteAtlas.HookTable
