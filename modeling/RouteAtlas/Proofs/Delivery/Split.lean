import RouteAtlas.Proofs.Classification.Alike
import RouteAtlas.Proofs.Delivery.Carry
import RouteAtlas.Proofs.Round.Found
import RouteAtlas.Proofs.Round.Fresh

/-! # One round in two

A round over some declarations may be split: one of them is not resolved yet in a first round, and
comes with the library in a second. If the tables of the rounds classify alike then both find what
the whole round finds, and offer the same tables to the sink.
-/

namespace RouteAtlas

namespace SymbolTable

/-- A table, and two tables that a round over it may be split into: one in which a declaration is
    not resolved yet, and one with this declaration and the library of the others. The first one
    classifies the others as the whole table does. -/
structure Split (others : List Declaration) (late : Declaration) (whole first second : SymbolTable) :
    Prop where
  wholePerm : whole.declarations.Perm (others ++ [late])
  firstPerm : first.declarations.Perm (others ++ [late.unresolved])
  secondEq : second.declarations = libraryOf others ++ [late]
  resolved : ∀ decl ∈ others ++ [late], decl.resolved = true
  firstAlike : ∀ decl ∈ others, Alike first whole decl

namespace Split

variable {others : List Declaration} {late : Declaration} {whole first second : SymbolTable}
  (split : Split others late whole first second)
include split

section Found

variable {mark : Declaration → Bool}

theorem found_whole :
    resolvedOnes (whole.declarations.filter mark) = whole.declarations.filter mark := by
  refine List.filter_eq_self.mpr fun decl member => ?_
  exact split.resolved decl (split.wholePerm.mem_iff.mp (List.mem_filter.mp member).1)

theorem pending_whole : pendingOnes (whole.declarations.filter mark) = [] := by
  refine List.filter_eq_nil_iff.mpr fun decl member => ?_
  simp [split.resolved decl (split.wholePerm.mem_iff.mp (List.mem_filter.mp member).1)]

theorem perm_whole :
    (whole.declarations.filter mark).Perm (others.filter mark ++ [late].filter mark) := by
  rw [← List.filter_append]
  exact split.wholePerm.filter mark

theorem found_first :
    (resolvedOnes (first.declarations.filter mark)).Perm (others.filter mark) := by
  have kept : resolvedOnes (others.filter mark) = others.filter mark := by
    refine List.filter_eq_self.mpr fun decl member => ?_
    exact split.resolved decl (List.mem_append_left _ (List.mem_filter.mp member).1)
  have dropped : resolvedOnes ([late.unresolved].filter mark) = [] := by
    refine List.filter_eq_nil_iff.mpr fun decl member => ?_
    rw [List.mem_singleton.mp (List.mem_filter.mp member).1]
    exact Bool.false_ne_true
  have found := (split.firstPerm.filter mark).filter fun decl => decl.resolved
  rw [List.filter_append, List.filter_append] at found
  change (resolvedOnes _).Perm (resolvedOnes _ ++ resolvedOnes _) at found
  rwa [kept, dropped, List.append_nil] at found

theorem pending_first :
    pendingOnes (first.declarations.filter mark) = [late.unresolved].filter mark := by
  have dropped : pendingOnes (others.filter mark) = [] := by
    refine List.filter_eq_nil_iff.mpr fun decl member => ?_
    simp [split.resolved decl (List.mem_append_left _ (List.mem_filter.mp member).1)]
  have found := (split.firstPerm.filter mark).filter fun decl => !decl.resolved
  rw [List.filter_append, List.filter_append] at found
  change (pendingOnes _).Perm (pendingOnes _ ++ pendingOnes _) at found
  rw [dropped, List.nil_append] at found
  cases marked : mark late.unresolved with
  | false =>
      have nothing : [late.unresolved].filter mark = [] := by simp [marked]
      rw [nothing] at found ⊢
      exact List.perm_nil.mp found
  | true =>
      have one : [late.unresolved].filter mark = [late.unresolved] := by simp [marked]
      rw [one] at found ⊢
      exact List.perm_singleton.mp found

variable (marks : ∀ decl, mark decl = true → decl.isMarked = true)
include marks

theorem filter_second : second.declarations.filter mark = [late].filter mark := by
  have library : (libraryOf others).filter mark = [] := by
    refine List.filter_eq_nil_iff.mpr fun decl member marked => ?_
    have plain := (List.mem_filter.mp member).2
    rw [marks decl marked] at plain
    cases plain
  rw [split.secondEq, List.filter_append, library, List.nil_append]

theorem found_second :
    resolvedOnes (second.declarations.filter mark) = [late].filter mark := by
  rw [split.filter_second marks]
  refine List.filter_eq_self.mpr fun decl member => ?_
  exact split.resolved decl (List.mem_append_right _ (List.mem_filter.mp member).1)

theorem pending_second : pendingOnes (second.declarations.filter mark) = [] := by
  rw [split.filter_second marks]
  refine List.filter_eq_nil_iff.mpr fun decl member => ?_
  simp [split.resolved decl (List.mem_append_right _ (List.mem_filter.mp member).1)]

/-- What the classes of a kind give rise to is the same in one round and in two. -/
theorem filterMap_perm (alike : Alike second whole late) {ν : Type}
    {make : SymbolTable → Declaration → Option ν}
    (made : ∀ {table other decl}, Alike table other decl → make table decl = make other decl) :
    ((whole.declarations.filter mark).filterMap (make whole)).Perm
      ((resolvedOnes (first.declarations.filter mark)).filterMap (make first) ++
        (resolvedOnes (second.declarations.filter mark)).filterMap (make second)) := by
  have firstSame : ∀ decl ∈ others.filter mark, make first decl = make whole decl :=
    fun decl member => made (split.firstAlike decl (List.mem_filter.mp member).1)
  have secondSame : ∀ decl ∈ [late].filter mark, make second decl = make whole decl := by
    intro decl member
    rw [List.mem_singleton.mp (List.mem_filter.mp member).1]
    exact made alike
  rw [split.found_second marks, List.filterMap_congr secondSame]
  refine (split.perm_whole.filterMap _).trans ?_
  rw [List.filterMap_append]
  refine List.Perm.append_right _ ?_
  rw [← List.filterMap_congr firstSame]
  exact (split.found_first.filterMap _).symm

end Found

section Staged

omit split in
theorem marks_route (decl : Declaration) (marked : decl.marks.route.isSome = true) :
    decl.isMarked = true :=
  Declaration.isMarked_iff.mpr (.inl marked)

omit split in
theorem marks_hook (decl : Declaration) (marked : decl.marks.hook.isSome = true) :
    decl.isMarked = true :=
  Declaration.isMarked_iff.mpr (.inr (.inl marked))

theorem stagedRoutes_eq (alike : Alike second whole late)
    (apart : ((whole.acceptedRoutes whole.routes).map RouteRecord.address).Nodup) :
    second.stagedRoutes (first.stagedRoutes .empty) = whole.stagedRoutes .empty := by
  have found : resolvedOnes whole.routes = whole.routes := split.found_whole
  have perm : (whole.acceptedRoutes whole.routes).Perm
      (first.acceptedRoutes (resolvedOnes first.routes) ++
        second.acceptedRoutes (resolvedOnes second.routes)) := by
    apply split.filterMap_perm marks_route alike
    intro table other decl same
    rw [acceptedRoute?, same.extractRoute, acceptedRoute?]
  simp only [stagedRoutes, found]
  rw [← RouteTable.table_insertAll_append]
  symm
  apply RouteTable.insertAll_perm
  · rw [RouteTable.accepted_append, accepted_extractRoutes, accepted_extractRoutes,
      accepted_extractRoutes]
    exact perm
  · rw [accepted_extractRoutes]
    exact nodup_acceptedRoutes (distinct_filter whole _)
  · rw [accepted_extractRoutes]
    exact apart

/-- Both rounds together lead to the interceptors of the whole round, and none of them clash. -/
theorem stagedHooks_eq (alike : Alike second whole late)
    (apart : ((whole.acceptedHooks whole.hooks).map HookRecord.priority).Nodup) :
    (whole.stagedHooks .empty).fatal = none ∧ (first.stagedHooks .empty).fatal = none ∧
      (second.stagedHooks (first.stagedHooks .empty).table).fatal = none ∧
      (second.stagedHooks (first.stagedHooks .empty).table).table =
        (whole.stagedHooks .empty).table := by
  have found : resolvedOnes whole.hooks = whole.hooks := split.found_whole
  have perm : (whole.acceptedHooks whole.hooks).Perm
      (first.acceptedHooks (resolvedOnes first.hooks) ++
        second.acceptedHooks (resolvedOnes second.hooks)) := by
    apply split.filterMap_perm marks_hook alike
    intro table other decl same
    rw [same.hookOf]
  have targets : ((whole.acceptedHooks whole.hooks).map HookRecord.target).Nodup :=
    nodup_acceptedHooks (distinct_filter whole _)
  have priorities := (perm.map HookRecord.priority).nodup apart
  have classes := (perm.map HookRecord.target).nodup targets
  obtain ⟨wholeSound, wholeHolds⟩ := takeHooks_holds .empty apart targets
  obtain ⟨firstSound, firstHolds⟩ := takeHooks_holds .empty
    (priorities.sublist ((List.sublist_append_left _ _).map _))
    (classes.sublist ((List.sublist_append_left _ _).map _))
  obtain ⟨secondSound, secondHolds⟩ := takeHooks_holds firstHolds priorities classes
  simp only [stagedHooks, found]
  exact ⟨wholeSound, firstSound, secondSound, secondHolds.eq wholeHolds perm.symm⟩

end Staged

section Offers

/-- If the declaration that comes late is of a kind then the first round holds the others of this
    kind back. -/
theorem held_back {mark : Declaration → Bool} (marked : mark late = true)
    (same : mark late.unresolved = mark late)
    (marks : ∀ decl, mark decl = true → decl.isMarked = true) :
    (pendingOnes (first.declarations.filter mark)).isEmpty = false ∧
      (resolvedOnes (second.declarations.filter mark)).isEmpty = false ∧
      (resolvedOnes (whole.declarations.filter mark)).isEmpty = false := by
  refine ⟨?_, ?_, ?_⟩
  · rw [split.pending_first, List.filter_cons_of_pos (same.trans marked)]
    rfl
  · rw [split.found_second marks, List.filter_cons_of_pos marked]
    rfl
  · rw [split.found_whole, split.perm_whole.isEmpty_eq, List.filter_cons_of_pos marked]
    simp

/-- Else the second round finds nothing of this kind. -/
theorem not_held_back {mark : Declaration → Bool} (plain : mark late = false)
    (same : mark late.unresolved = mark late)
    (marks : ∀ decl, mark decl = true → decl.isMarked = true) :
    pendingOnes (first.declarations.filter mark) = [] ∧
      resolvedOnes (second.declarations.filter mark) = [] ∧
      (resolvedOnes (first.declarations.filter mark)).isEmpty =
        (resolvedOnes (whole.declarations.filter mark)).isEmpty := by
  have nothing : [late].filter mark = [] := by simp [plain]
  refine ⟨?_, ?_, ?_⟩
  · rw [split.pending_first]
    simp [same.trans plain]
  · rw [split.found_second marks, nothing]
  · rw [split.found_first.isEmpty_eq, split.found_whole, split.perm_whole.isEmpty_eq, nothing,
      List.append_nil]

variable (pipeline : Pipeline)

theorem routeOffer_once (routes laterRoutes : RouteTable) :
    pipeline.routeOffer first routes = [] ∨ pipeline.routeOffer second laterRoutes = [] := by
  cases marked : late.marks.route.isSome with
  | true =>
      obtain ⟨pending, -, -⟩ := split.held_back marked rfl marks_route
      change (pendingOnes first.routes).isEmpty = false at pending
      refine .inl (if_pos ?_)
      rw [pending, Bool.not_false, Bool.or_true]
  | false =>
      obtain ⟨-, nothing, -⟩ := split.not_held_back marked rfl marks_route
      change resolvedOnes second.routes = [] at nothing
      refine .inr (if_pos ?_)
      rw [nothing, List.isEmpty_nil, Bool.true_or]

theorem hookOffer_once (hooks laterHooks : HookTable) :
    pipeline.hookOffer first hooks = [] ∨ pipeline.hookOffer second laterHooks = [] := by
  cases marked : late.marks.hook.isSome with
  | true =>
      obtain ⟨pending, -, -⟩ := split.held_back marked rfl marks_hook
      change (pendingOnes first.hooks).isEmpty = false at pending
      refine .inl (if_pos ?_)
      rw [pending, Bool.not_false, Bool.or_true, Bool.true_or]
  | false =>
      obtain ⟨-, nothing, -⟩ := split.not_held_back marked rfl marks_hook
      change resolvedOnes second.hooks = [] at nothing
      refine .inr (if_pos ?_)
      rw [nothing, List.isEmpty_nil, Bool.true_or, Bool.true_or]

/-- One of the two rounds offers the tables of the routes, if the whole round does. -/
theorem routeOffer_eq (alike : Alike second whole late)
    (apart : ((whole.acceptedRoutes whole.routes).map RouteRecord.address).Nodup) :
    pipeline.routeOffer first .empty ++ pipeline.routeOffer second (first.stagedRoutes .empty) =
      pipeline.routeOffer whole .empty := by
  have staged := split.stagedRoutes_eq alike apart
  have wholePending : pendingOnes whole.routes = [] := split.pending_whole
  have secondPending : pendingOnes second.routes = [] := split.pending_second marks_route
  simp only [Pipeline.routeOffer, wholePending, secondPending, staged]
  cases marked : late.marks.route.isSome with
  | true =>
      -- The first round waits for the late route, and the second has all of them.
      obtain ⟨pending, secondFound, wholeFound⟩ := split.held_back marked rfl marks_route
      change (pendingOnes first.routes).isEmpty = false at pending
      change (resolvedOnes second.routes).isEmpty = false at secondFound
      change (resolvedOnes whole.routes).isEmpty = false at wholeFound
      rw [pending, secondFound, wholeFound]
      simp
  | false =>
      -- The first round has all routes already, and the second finds none.
      obtain ⟨pending, nothing, found⟩ := split.not_held_back marked rfl marks_route
      change pendingOnes first.routes = [] at pending
      change resolvedOnes second.routes = [] at nothing
      change (resolvedOnes first.routes).isEmpty = (resolvedOnes whole.routes).isEmpty at found
      have early : first.stagedRoutes .empty = whole.stagedRoutes .empty := by
        rw [← staged, SymbolTable.stagedRoutes, SymbolTable.stagedRoutes, nothing]
        rfl
      rw [pending, nothing, found, early]
      simp

theorem hookOffer_eq (alike : Alike second whole late)
    (apart : ((whole.acceptedHooks whole.hooks).map HookRecord.priority).Nodup) :
    pipeline.hookOffer first .empty ++
        pipeline.hookOffer second (first.stagedHooks .empty).table =
      pipeline.hookOffer whole .empty := by
  obtain ⟨wholeSound, firstSound, secondSound, staged⟩ := split.stagedHooks_eq alike apart
  have wholePending : pendingOnes whole.hooks = [] := split.pending_whole
  have secondPending : pendingOnes second.hooks = [] := split.pending_second marks_hook
  simp only [Pipeline.hookOffer, wholePending, secondPending, wholeSound, firstSound, secondSound,
    staged]
  cases marked : late.marks.hook.isSome with
  | true =>
      obtain ⟨pending, secondFound, wholeFound⟩ := split.held_back marked rfl marks_hook
      change (pendingOnes first.hooks).isEmpty = false at pending
      change (resolvedOnes second.hooks).isEmpty = false at secondFound
      change (resolvedOnes whole.hooks).isEmpty = false at wholeFound
      rw [pending, secondFound, wholeFound]
      simp
  | false =>
      obtain ⟨pending, nothing, found⟩ := split.not_held_back marked rfl marks_hook
      change pendingOnes first.hooks = [] at pending
      change resolvedOnes second.hooks = [] at nothing
      change (resolvedOnes first.hooks).isEmpty = (resolvedOnes whole.hooks).isEmpty at found
      have early : (first.stagedHooks .empty).table = (whole.stagedHooks .empty).table := by
        rw [← staged, SymbolTable.stagedHooks, SymbolTable.stagedHooks, nothing]
        rfl
      rw [pending, nothing, found, early]
      simp

end Offers

end Split

end SymbolTable

end RouteAtlas
