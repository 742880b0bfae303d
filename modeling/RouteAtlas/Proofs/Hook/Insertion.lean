import RouteAtlas.Proofs.Round.Hooks

/-! # Insertion of interceptors

An interceptor is refused if another class holds its priority at that moment. Of several that are
inserted one after another this says which ones pass, and what the table holds in the end.
-/

namespace RouteAtlas

namespace HookTable

/-- The tables that insertions lead to. A refused one leaves the table as it is. -/
inductive Reached : HookTable → Prop where
  | empty : Reached .empty
  | insert {table after} (hook : HookRecord) :
    Reached table → table.insert hook = .ok after → Reached after

/-- Each interceptor lies under its priority, and a class has one at most. -/
structure WellFormed (table : HookTable) : Prop where
  keyed : table.Holds table.hooks
  single : ∀ {hook other}, hook ∈ table.hooks → other ∈ table.hooks →
    hook.target = other.target → hook = other

variable {table after other : HookTable} {hook held : HookRecord}

theorem mem_hooks : hook ∈ table.hooks ↔ ∃ priority, table.byPriority.get? priority = some hook := by
  simp only [hooks, SortedMap.values, List.mem_map, SortedMap.get?_eq_some_iff]
  constructor
  · rintro ⟨⟨priority, _⟩, entry, rfl⟩
    exact ⟨priority, entry⟩
  · rintro ⟨priority, entry⟩
    exact ⟨_, entry, rfl⟩

theorem WellFormed.of_get? (keyed : ∀ {priority hook},
      table.byPriority.get? priority = some hook → hook.priority = priority)
    (single : ∀ {hook other}, hook ∈ table.hooks → other ∈ table.hooks →
      hook.target = other.target → hook = other) : table.WellFormed where
  keyed := by
    intro priority hook
    constructor
    · exact fun found => ⟨mem_hooks.mpr ⟨priority, found⟩, keyed found⟩
    · rintro ⟨member, rfl⟩
      obtain ⟨priority, found⟩ := mem_hooks.mp member
      rwa [keyed found]
  single := single

theorem wellFormed_empty : empty.WellFormed :=
  .of_get? (fun found => by simp [empty] at found) fun member => by simp [mem_hooks, empty] at member

namespace WellFormed

theorem get?_priority (wellFormed : table.WellFormed) (member : hook ∈ table.hooks) :
    table.byPriority.get? hook.priority = some hook :=
  (wellFormed.keyed _ _).mpr ⟨member, rfl⟩

theorem eq_of_priority (wellFormed : table.WellFormed) (member : hook ∈ table.hooks)
    (heldIn : held ∈ table.hooks) (same : hook.priority = held.priority) : hook = held := by
  have found := wellFormed.get?_priority member
  rw [same, wellFormed.get?_priority heldIn] at found
  exact (Option.some.inj found).symm

theorem eq (wellFormed : table.WellFormed) (others : other.WellFormed)
    (same : ∀ hook, hook ∈ table.hooks ↔ hook ∈ other.hooks) : table = other := by
  have maps : table.byPriority = other.byPriority := by
    refine SortedMap.ext_get? fun priority => Option.ext fun hook => ?_
    rw [wellFormed.keyed, others.keyed, same]
  cases table
  cases other
  rw [HookTable.mk.injEq]
  exact maps

end WellFormed

/-- The table in which a class has given up its former priority for that of an interceptor. -/
def moved (table : HookTable) (hook : HookRecord) : HookTable :=
  ⟨(table.byPriority.filter fun _ held => decide (held.target ≠ hook.target)).insert
    hook.priority hook⟩

theorem insert_eq_ok_iff (wellFormed : table.WellFormed) :
    table.insert hook = .ok after ↔
      (∃ held ∈ table.hooks, held.priority = hook.priority ∧ held.target = hook.target ∧
        after = table) ∨
      ((∀ held ∈ table.hooks, held.priority ≠ hook.priority) ∧ after = table.moved hook) := by
  unfold insert
  cases found : table.byPriority.get? hook.priority with
  | some holder =>
      obtain ⟨holderIn, holds⟩ := (wellFormed.keyed _ _).mp found
      have only : ∀ held ∈ table.hooks, held.priority = hook.priority → held = holder :=
        fun held heldIn same => wellFormed.eq_of_priority heldIn holderIn (same.trans holds.symm)
      by_cases own : holder.target = hook.target
      · simp only [own, if_true, Except.ok.injEq]
        grind
      · simp only [own, if_false, reduceCtorEq, false_iff]
        grind
  | none =>
      have vacant : ∀ held ∈ table.hooks, held.priority ≠ hook.priority := by
        intro held heldIn same
        have known := wellFormed.get?_priority heldIn
        rw [same, found] at known
        cases known
      simp only [Except.ok.injEq, moved]
      grind

theorem mem_hooks_moved (wellFormed : table.WellFormed)
    (vacant : ∀ held ∈ table.hooks, held.priority ≠ hook.priority) :
    held ∈ (table.moved hook).hooks ↔
      held = hook ∨ (held ∈ table.hooks ∧ held.target ≠ hook.target) := by
  have entries : ∀ priority, (priority, held) ∈
      (table.byPriority.filter fun _ held => decide (held.target ≠ hook.target)).entries ↔
        (held ∈ table.hooks ∧ held.priority = priority) ∧ held.target ≠ hook.target := by
    intro priority
    rw [SortedMap.filter, List.mem_filter, ← SortedMap.get?_eq_some_iff, wellFormed.keyed,
      decide_eq_true_eq]
  rw [mem_hooks]
  simp only [moved, SortedMap.get?_eq_some_iff, SortedMap.mem_insert_iff, entries]
  constructor
  · rintro ⟨priority, ⟨-, rfl⟩ | ⟨-, ⟨heldIn, -⟩, other⟩⟩
    · exact .inl rfl
    · exact .inr ⟨heldIn, other⟩
  · rintro (rfl | ⟨heldIn, other⟩)
    · exact ⟨held.priority, .inl ⟨rfl, rfl⟩⟩
    · exact ⟨held.priority, .inr ⟨vacant held heldIn, ⟨heldIn, rfl⟩, other⟩⟩

theorem insert_ok_iff (wellFormed : table.WellFormed) :
    (∃ after, table.insert hook = .ok after) ↔
      ∀ held ∈ table.hooks, held.priority = hook.priority → held.target = hook.target := by
  simp only [insert_eq_ok_iff wellFormed]
  constructor
  · rintro ⟨after, ⟨holder, holderIn, holds, own, -⟩ | ⟨vacant, -⟩⟩ held heldIn same
    · rwa [wellFormed.eq_of_priority heldIn holderIn (same.trans holds.symm)]
    · exact absurd same (vacant held heldIn)
  · intro passed
    by_cases holder : ∃ held ∈ table.hooks, held.priority = hook.priority
    · obtain ⟨held, heldIn, same⟩ := holder
      exact ⟨table, .inl ⟨held, heldIn, same, passed held heldIn same, rfl⟩⟩
    · exact ⟨_, .inr ⟨fun held heldIn same => holder ⟨held, heldIn, same⟩, rfl⟩⟩

theorem insert_eq_error {error : BuildError} (wellFormed : table.WellFormed)
    (refused : table.insert hook = .error error) :
    ∃ holder ∈ table.hooks, holder.priority = hook.priority ∧ holder.target ≠ hook.target ∧
      error = .duplicatePriority hook.priority holder.target.name hook.target.name := by
  unfold insert at refused
  cases found : table.byPriority.get? hook.priority with
  | none => simp [found] at refused
  | some holder =>
      obtain ⟨holderIn, holds⟩ := (wellFormed.keyed _ _).mp found
      by_cases own : holder.target = hook.target
      · simp [found, own] at refused
      · simp only [found, own, if_false, Except.error.injEq] at refused
        exact ⟨holder, holderIn, holds, own, refused.symm⟩

/-- A class that keeps its priority stays as it was. -/
theorem mem_hooks_insert (wellFormed : table.WellFormed) (inserted : table.insert hook = .ok after)
    (held : HookRecord) : held ∈ after.hooks ↔
      (held ∈ table.hooks ∧ (held.target = hook.target → held.priority = hook.priority)) ∨
        (held = hook ∧
          ∀ other ∈ table.hooks, other.target = hook.target → other.priority ≠ hook.priority) := by
  rcases (insert_eq_ok_iff wellFormed).mp inserted with ⟨holder, holderIn, holds, own, rfl⟩ | ⟨vacant, rfl⟩
  · have kept : ∀ other ∈ after.hooks, other.target = hook.target → other = holder :=
      fun other otherIn same => wellFormed.single otherIn holderIn (same.trans own.symm)
    grind
  · rw [mem_hooks_moved wellFormed vacant]
    grind

theorem mem_hooks_insert_of_ne (wellFormed : table.WellFormed)
    (inserted : table.insert hook = .ok after) (other : held.target ≠ hook.target) :
    held ∈ after.hooks ↔ held ∈ table.hooks := by
  rw [mem_hooks_insert wellFormed inserted]
  grind

theorem exists_mem_hooks_insert (wellFormed : table.WellFormed)
    (inserted : table.insert hook = .ok after) :
    ∃ own ∈ after.hooks, own.target = hook.target ∧ own.priority = hook.priority := by
  have members := mem_hooks_insert wellFormed inserted
  by_cases holder : ∃ held ∈ table.hooks, held.target = hook.target ∧ held.priority = hook.priority
  · obtain ⟨held, heldIn, target, priority⟩ := holder
    exact ⟨held, (members _).mpr (.inl ⟨heldIn, fun _ => priority⟩), target, priority⟩
  · refine ⟨hook, (members _).mpr (.inr ⟨rfl, ?_⟩), rfl, rfl⟩
    exact fun other otherIn target priority => holder ⟨other, otherIn, target, priority⟩

theorem wellFormed_insert (wellFormed : table.WellFormed) (inserted : table.insert hook = .ok after) :
    after.WellFormed := by
  have members := mem_hooks_insert wellFormed inserted
  refine .of_get? ?_ ?_
  · rcases (insert_eq_ok_iff wellFormed).mp inserted with ⟨_, _, _, _, rfl⟩ | ⟨vacant, rfl⟩
    · exact fun found => ((wellFormed.keyed _ _).mp found).2
    · intro priority held found
      rw [moved, SortedMap.get?_insert] at found
      split at found
      · cases found
        exact Eq.symm ‹_›
      · have entry := SortedMap.get?_eq_some_iff.mp found
        exact ((wellFormed.keyed _ _).mp
          (SortedMap.get?_eq_some_iff.mpr (List.mem_filter.mp entry).1)).2
  · intro first second firstIn secondIn same
    rw [members] at firstIn secondIn
    rcases firstIn with ⟨firstOld, firstKept⟩ | ⟨rfl, fresh⟩
    · rcases secondIn with ⟨secondOld, -⟩ | ⟨rfl, fresh⟩
      · exact wellFormed.single firstOld secondOld same
      · exact absurd (firstKept same) (fresh first firstOld same)
    · rcases secondIn with ⟨secondOld, secondKept⟩ | ⟨rfl, -⟩
      · exact absurd (secondKept same.symm) (fresh second secondOld same.symm)
      · rfl

theorem Reached.wellFormed (reached : Reached table) : table.WellFormed := by
  induction reached with
  | empty => exact wellFormed_empty
  | insert _ _ inserted ih => exact wellFormed_insert ih inserted

/-- Insert interceptors one after another, up to the first clash. -/
def insertAll (table : HookTable) : List HookRecord → Except BuildError HookTable
  | [] => .ok table
  | hook :: rest => (table.insert hook).bind fun after => after.insertAll rest

section InsertAll

variable {hooks rest : List HookRecord}

theorem target_ne_of_mem (distinct : ((hook :: rest).map HookRecord.target).Nodup)
    {later : HookRecord} (member : later ∈ rest) : later.target ≠ hook.target :=
  fun same => (List.nodup_cons.mp distinct).1 (same ▸ List.mem_map_of_mem member)

theorem insertAll_cons_eq_ok_iff :
    table.insertAll (hook :: rest) = .ok after ↔
      ∃ middle, table.insert hook = .ok middle ∧ middle.insertAll rest = .ok after := by
  cases inserted : table.insert hook <;> simp [insertAll, inserted, Except.bind]

theorem Reached.insertAll (reached : Reached table) (inserted : table.insertAll hooks = .ok after) :
    Reached after := by
  induction hooks generalizing table with
  | nil =>
      cases inserted
      exact reached
  | cons hook rest ih =>
      obtain ⟨middle, first, others⟩ := insertAll_cons_eq_ok_iff.mp inserted
      exact ih (.insert hook reached first) others

theorem wellFormed_insertAll (wellFormed : table.WellFormed)
    (inserted : table.insertAll hooks = .ok after) : after.WellFormed := by
  induction hooks generalizing table with
  | nil =>
      cases inserted
      exact wellFormed
  | cons hook rest ih =>
      obtain ⟨middle, first, others⟩ := insertAll_cons_eq_ok_iff.mp inserted
      exact ih (wellFormed_insert wellFormed first) others

/-- What ends the insertions names an interceptor that is refused after one that has its priority. -/
theorem insertAll_eq_error {error : BuildError} (wellFormed : table.WellFormed)
    (refused : table.insertAll hooks = .error error) :
    ∃ holder hook, (holder ∈ table.hooks ∨ holder ∈ hooks) ∧ hook ∈ hooks ∧
      holder.priority = hook.priority ∧ holder.target ≠ hook.target ∧
      error = .duplicatePriority hook.priority holder.target.name hook.target.name := by
  induction hooks generalizing table with
  | nil => cases refused
  | cons first rest ih =>
      rw [insertAll] at refused
      cases inserted : table.insert first with
      | error clash =>
          rw [inserted] at refused
          cases refused
          obtain ⟨holder, holderIn, same, other, named⟩ := insert_eq_error wellFormed inserted
          exact ⟨holder, first, .inl holderIn, List.mem_cons_self, same, other, named⟩
      | ok middle =>
          rw [inserted] at refused
          obtain ⟨holder, hook, held, member, clash⟩ :=
            ih (wellFormed_insert wellFormed inserted) refused
          refine ⟨holder, hook, ?_, List.mem_cons_of_mem _ member, clash⟩
          rcases held with inMiddle | later
          · rcases (mem_hooks_insert wellFormed inserted _).mp inMiddle with ⟨before, -⟩ | ⟨rfl, -⟩
            · exact .inl before
            · exact .inr List.mem_cons_self
          · exact .inr (List.mem_cons_of_mem _ later)

/-- In the end a class has the interceptor that was inserted, unless it had that priority before. -/
theorem mem_hooks_insertAll (wellFormed : table.WellFormed)
    (distinct : (hooks.map HookRecord.target).Nodup) (inserted : table.insertAll hooks = .ok after)
    (held : HookRecord) : held ∈ after.hooks ↔
      (held ∈ table.hooks ∧ ∀ hook ∈ hooks, hook.target = held.target →
        hook.priority = held.priority) ∨
      (held ∈ hooks ∧ ∀ other ∈ table.hooks, other.target = held.target →
        other.priority ≠ held.priority) := by
  induction hooks generalizing table with
  | nil =>
      cases inserted
      simp
  | cons hook rest ih =>
      have different : ∀ later ∈ rest, later.target ≠ hook.target :=
        fun _ member => target_ne_of_mem distinct member
      obtain ⟨middle, first, others⟩ := insertAll_cons_eq_ok_iff.mp inserted
      have step := mem_hooks_insert wellFormed first
      rw [ih (wellFormed_insert wellFormed first) (List.nodup_cons.mp distinct).2 others]
      -- A later interceptor is of another class, of which this step has changed nothing.
      simp only [step, List.mem_cons]
      grind

/-- What lets interceptors pass in the given order: no priority is that of a class that stays where
    it is, nor that of another one among them, nor that which a later one still has to give up. -/
structure Passing (table : HookTable) (hooks : List HookRecord) : Prop where
  staying : ∀ hook ∈ hooks, ∀ held ∈ table.hooks, held.target ∉ hooks.map HookRecord.target →
    held.priority ≠ hook.priority
  apart : hooks.Pairwise fun first second => first.priority ≠ second.priority
  leaving : hooks.Pairwise fun first second => ∀ held ∈ table.hooks,
    held.target = second.target → held.priority ≠ first.priority

section Step

variable {middle : HookTable} (wellFormed : table.WellFormed)
  (distinct : ((hook :: rest).map HookRecord.target).Nodup)
  (inserted : table.insert hook = .ok middle)
include wellFormed distinct inserted

/-- The first interceptor passes if the others find its class where it was inserted. -/
theorem Passing.cons (passing : middle.Passing rest) : table.Passing (hook :: rest) := by
  obtain ⟨own, ownIn, ownTarget, ownPriority⟩ := exists_mem_hooks_insert wellFormed inserted
  have absent := (List.nodup_cons.mp distinct).1
  have passed := (insert_ok_iff wellFormed).mp ⟨middle, inserted⟩
  constructor
  case staying =>
    intro later member held heldIn unknown
    obtain ⟨other, unlisted⟩ : held.target ≠ hook.target ∧
        held.target ∉ rest.map HookRecord.target := by
      simpa [List.map_cons, List.mem_cons, not_or] using unknown
    rcases List.mem_cons.mp member with rfl | member
    · exact fun same => other (passed held heldIn same)
    · have after := (mem_hooks_insert_of_ne wellFormed inserted other).mpr heldIn
      exact passing.staying later member held after unlisted
  case apart =>
    refine List.pairwise_cons.mpr ⟨fun later member => ?_, passing.apart⟩
    rw [← ownPriority]
    exact passing.staying later member own ownIn (by rwa [ownTarget])
  case leaving =>
    refine List.pairwise_cons.mpr ⟨fun later member held heldIn same priority => ?_, ?_⟩
    · have target := passed held heldIn priority
      rw [same] at target
      exact target_ne_of_mem distinct member target
    · refine passing.leaving.imp_of_mem fun {first second} _ secondIn free held heldIn same => ?_
      have other : held.target ≠ hook.target := same ▸ target_ne_of_mem distinct secondIn
      exact free held ((mem_hooks_insert_of_ne wellFormed inserted other).mpr heldIn) same

theorem Passing.tail (passing : table.Passing (hook :: rest)) : middle.Passing rest := by
  obtain ⟨beforeApart, apart⟩ := List.pairwise_cons.mp passing.apart
  obtain ⟨-, leaving⟩ := List.pairwise_cons.mp passing.leaving
  constructor
  case staying =>
    intro later member held heldIn unlisted
    by_cases own : held.target = hook.target
    · have priority : held.priority = hook.priority := by
        rcases (mem_hooks_insert wellFormed inserted _).mp heldIn with ⟨-, kept⟩ | ⟨rfl, -⟩
        · exact kept own
        · rfl
      rw [priority]
      exact beforeApart later member
    · refine passing.staying later (List.mem_cons_of_mem _ member) held
        ((mem_hooks_insert_of_ne wellFormed inserted own).mp heldIn) ?_
      simpa [own] using unlisted
  case apart => exact apart
  case leaving =>
    refine leaving.imp_of_mem fun {first second} _ secondIn free held heldIn same => ?_
    have other : held.target ≠ hook.target := same ▸ target_ne_of_mem distinct secondIn
    exact free held ((mem_hooks_insert_of_ne wellFormed inserted other).mp heldIn) same

end Step

/-- What passes gets its first interceptor inserted. -/
theorem Passing.insert_head (wellFormed : table.WellFormed)
    (passing : table.Passing (hook :: rest)) : ∃ middle, table.insert hook = .ok middle := by
  refine (insert_ok_iff wellFormed).mpr fun held heldIn same => ?_
  by_contra other
  by_cases listed : held.target ∈ rest.map HookRecord.target
  · obtain ⟨later, member, target⟩ := List.mem_map.mp listed
    exact (List.pairwise_cons.mp passing.leaving).1 later member held heldIn target.symm same
  · refine passing.staying hook List.mem_cons_self held heldIn ?_ same
    simpa [other] using listed

theorem insertAll_ok_iff (wellFormed : table.WellFormed)
    (distinct : (hooks.map HookRecord.target).Nodup) :
    (∃ after, table.insertAll hooks = .ok after) ↔ table.Passing hooks := by
  induction hooks generalizing table with
  | nil => exact iff_of_true ⟨table, rfl⟩ ⟨by simp, .nil, .nil⟩
  | cons hook rest ih =>
      have restDistinct := (List.nodup_cons.mp distinct).2
      constructor
      · rintro ⟨after, inserted⟩
        obtain ⟨middle, first, others⟩ := insertAll_cons_eq_ok_iff.mp inserted
        have passing := (ih (wellFormed_insert wellFormed first) restDistinct).mp ⟨after, others⟩
        exact passing.cons wellFormed distinct first
      · intro passing
        obtain ⟨middle, first⟩ := passing.insert_head wellFormed
        obtain ⟨after, others⟩ := (ih (wellFormed_insert wellFormed first) restDistinct).mpr
          (passing.tail wellFormed distinct first)
        exact ⟨after, insertAll_cons_eq_ok_iff.mpr ⟨middle, first, others⟩⟩

/-- Interceptors that a table has taken already change nothing. -/
theorem insertAll_of_held (wellFormed : table.WellFormed)
    (known : ∀ hook ∈ hooks, ∃ held ∈ table.hooks, held.target = hook.target ∧
      held.priority = hook.priority) : table.insertAll hooks = .ok table := by
  induction hooks with
  | nil => rfl
  | cons hook rest ih =>
      obtain ⟨held, heldIn, target, priority⟩ := known hook List.mem_cons_self
      refine insertAll_cons_eq_ok_iff.mpr ⟨table, ?_, ih fun later member => ?_⟩
      · exact (insert_eq_ok_iff wellFormed).mpr (.inl ⟨held, heldIn, priority, target, rfl⟩)
      · exact known later (List.mem_cons_of_mem _ member)

theorem insertAll_again (wellFormed : table.WellFormed)
    (distinct : (hooks.map HookRecord.target).Nodup) (inserted : table.insertAll hooks = .ok after) :
    after.insertAll hooks = .ok after := by
  refine insertAll_of_held (wellFormed_insertAll wellFormed inserted) fun hook member => ?_
  have members := mem_hooks_insertAll wellFormed distinct inserted
  have only : ∀ other ∈ hooks, other.target = hook.target → other = hook :=
    fun other otherIn same => List.inj_on_of_nodup_map distinct otherIn member same
  by_cases holder : ∃ held ∈ table.hooks, held.target = hook.target ∧ held.priority = hook.priority
  · obtain ⟨held, heldIn, target, priority⟩ := holder
    refine ⟨held, (members _).mpr (.inl ⟨heldIn, fun other otherIn same => ?_⟩), target, priority⟩
    rw [only other otherIn (same.trans target), priority]
  · refine ⟨hook, (members _).mpr (.inr ⟨member, ?_⟩), rfl, rfl⟩
    exact fun other otherIn target priority => holder ⟨other, otherIn, target, priority⟩

end InsertAll

end HookTable

namespace SymbolTable

variable {table : SymbolTable} {staged after : HookTable} {decls : List Declaration}

/-- The classes of a round are worked on until two interceptors clash. -/
theorem takeHooks_of_ok (inserted : staged.insertAll (table.acceptedHooks decls) = .ok after) :
    (table.takeHooks staged decls).fatal = none ∧ (table.takeHooks staged decls).table = after := by
  induction decls generalizing staged with
  | nil =>
      cases inserted
      exact ⟨rfl, rfl⟩
  | cons decl rest ih =>
      cases made : table.hookOf decl with
      | error =>
          rw [acceptedHooks_cons_error made] at inserted
          simp only [takeHooks, made]
          exact ih inserted
      | ok hook =>
          rw [acceptedHooks_cons_ok made] at inserted
          obtain ⟨middle, first, later⟩ := HookTable.insertAll_cons_eq_ok_iff.mp inserted
          simp only [takeHooks, made, first]
          exact ih later

theorem takeHooks_of_error {error : BuildError}
    (refused : staged.insertAll (table.acceptedHooks decls) = .error error) :
    (table.takeHooks staged decls).fatal = some error := by
  induction decls generalizing staged with
  | nil => cases refused
  | cons decl rest ih =>
      cases made : table.hookOf decl with
      | error =>
          rw [acceptedHooks_cons_error made] at refused
          simp only [takeHooks, made]
          exact ih refused
      | ok hook =>
          rw [acceptedHooks_cons_ok made, HookTable.insertAll] at refused
          cases first : staged.insert hook with
          | error other =>
              rw [first] at refused
              cases refused
              simp only [takeHooks, made, first]
          | ok middle =>
              rw [first] at refused
              simp only [takeHooks, made, first]
              exact ih refused

theorem fatal_takeHooks_eq_none_iff :
    (table.takeHooks staged decls).fatal = none ↔
      staged.insertAll (table.acceptedHooks decls) = .ok (table.takeHooks staged decls).table := by
  constructor
  · intro sound
    cases inserted : staged.insertAll (table.acceptedHooks decls) with
    | error error =>
        rw [takeHooks_of_error inserted] at sound
        cases sound
    | ok after => rw [(takeHooks_of_ok inserted).2]
  · exact fun inserted => (takeHooks_of_ok inserted).1

end SymbolTable

end RouteAtlas
