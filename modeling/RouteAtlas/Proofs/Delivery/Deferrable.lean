import RouteAtlas.Proofs.Delivery.Run

/-! # Snapshots with a declaration that may come late

A declaration that is not resolved is left for the next delivery. The round of that delivery knows
the library and the declaration itself, but no longer the other annotated ones.
-/

namespace RouteAtlas

/-- The declarations of a snapshot apart from one. -/
def apartFrom (late : Declaration) (snapshot : List Declaration) : List Declaration :=
  snapshot.filter fun decl => decide (decl ≠ late)

/-- A snapshot without conflicts, and one of its declarations that may come late. -/
structure Deferrable (snapshot : List Declaration) (late : Declaration) : Prop where
  distinct : (declarationNames snapshot).Nodup
  resolved : ∀ decl ∈ snapshot, decl.resolved = true
  /-- No two valid routes are filed in one place. -/
  routes : let table := SymbolTable.ofList snapshot
    ((table.acceptedRoutes table.routes).map RouteRecord.address).Nodup
  /-- No two interceptors have one priority. -/
  hooks : let table := SymbolTable.ofList snapshot
    ((table.acceptedHooks table.hooks).map HookRecord.priority).Nodup
  member : late ∈ snapshot
  marked : late.isMarked = true

/-- Routes with different paths and interceptors with different priorities do not conflict. -/
theorem Deferrable.of_marks {snapshot : List Declaration} {late : Declaration}
    (distinct : (declarationNames snapshot).Nodup)
    (resolved : ∀ decl ∈ snapshot, decl.resolved = true)
    (paths : ((snapshot.filterMap fun decl => decl.marks.route).map RouteMark.path).Nodup)
    (priorities : ((snapshot.filterMap fun decl => decl.marks.hook).map HookMark.priority).Nodup)
    (member : late ∈ snapshot) (marked : late.isMarked = true) : Deferrable snapshot late where
  distinct := distinct
  resolved := resolved
  routes := by
    intro table
    have listed : table.declarations = snapshot := SymbolTable.declarations_ofList distinct
    have given : ((table.routes.filterMap fun decl => decl.marks.route).map
        RouteMark.path).Nodup := by
      rw [SymbolTable.routes, listed]
      exact paths.sublist ((List.filter_sublist.filterMap _).map _)
    have apart : ((table.acceptedRoutes table.routes).map RouteRecord.path).Nodup := by
      refine SymbolTable.nodup_filterMap (fun made => ?_) given
      obtain ⟨mark, marked, path, -⟩ := SymbolTable.acceptedRoute?_eq_some made
      exact ⟨mark, marked, path⟩
    apply List.Nodup.of_map Prod.snd
    rw [List.map_map]
    exact apart
  hooks := by
    intro table
    have listed : table.declarations = snapshot := SymbolTable.declarations_ofList distinct
    have given : ((table.hooks.filterMap fun decl => decl.marks.hook).map
        HookMark.priority).Nodup := by
      rw [SymbolTable.hooks, listed]
      exact priorities.sublist ((List.filter_sublist.filterMap _).map _)
    refine SymbolTable.nodup_filterMap (fun made => ?_) given
    obtain ⟨mark, marked, priority, -⟩ := SymbolTable.hookOf_eq_some made
    exact ⟨mark, marked, priority⟩
  member := member
  marked := marked

section Postponed

variable {before after : List Declaration} {late : Declaration}
  (distinct : (declarationNames (before ++ late :: after)).Nodup)
include distinct

theorem supertypeNames_postponed (name : String) :
    (SymbolTable.ofList (before ++ late.unresolved :: after)).supertypeNames name =
      (SymbolTable.ofList (before ++ late :: after)).supertypeNames name := by
  have whole := SymbolTable.declarations_ofList distinct
  have first := declarations_postponed distinct
  by_cases known : name ∈ declarationNames (before ++ late :: after)
  · obtain ⟨decl, member, rfl⟩ := List.mem_map.mp known
    have wholeIn := member
    rw [← whole] at wholeIn
    rcases List.mem_cons.mp (List.perm_middle.mem_iff.mp member) with here | other
    · have firstIn : late.unresolved ∈ before ++ late.unresolved :: after :=
        List.mem_append_right _ List.mem_cons_self
      rw [← first] at firstIn
      exact SymbolTable.supertypeNames_congr wholeIn firstIn (by rw [here]; rfl) (by rw [here]; rfl)
    · have firstIn : decl ∈ before ++ late.unresolved :: after :=
        List.perm_middle.mem_iff.mpr (List.mem_cons_of_mem _ other)
      rw [← first] at firstIn
      exact SymbolTable.supertypeNames_congr wholeIn firstIn rfl rfl
  · have unknown : name ∉ declarationNames (before ++ late.unresolved :: after) := by
      rw [declarationNames, List.map_append, List.map_cons] at known ⊢
      exact known
    rw [← whole] at known
    rw [← first] at unknown
    rw [SymbolTable.supertypeNames_of_not_mem known, SymbolTable.supertypeNames_of_not_mem unknown]

/-- The library and the late declaration lack no supertypes but those of annotated declarations. -/
theorem supertypeNames_library {second : SymbolTable}
    (listed : second.declarations = libraryOf (before ++ after) ++ [late]) (name : String) :
    second.supertypeNames name =
        (SymbolTable.ofList (before ++ late :: after)).supertypeNames name ∨
      (second.supertypeNames name = [] ∧ ∃ other ∈ before ++ after,
        other.isMarked = true ∧ other.qualifiedName = name) := by
  have whole := SymbolTable.declarations_ofList distinct
  have kept : second.declarations ⊆ before ++ late :: after := by
    intro decl member
    rw [listed] at member
    refine List.perm_middle.mem_iff.mpr ?_
    rcases List.mem_append.mp member with library | last
    · exact List.mem_cons_of_mem _ (List.mem_filter.mp library).1
    · rw [List.mem_singleton.mp last]
      exact List.mem_cons_self
  by_cases known : name ∈ declarationNames second.declarations
  · obtain ⟨decl, member, rfl⟩ := List.mem_map.mp known
    have wholeIn := kept member
    rw [← whole] at wholeIn
    exact .inl (SymbolTable.supertypeNames_congr wholeIn member rfl rfl)
  · have nothing := SymbolTable.supertypeNames_of_not_mem known
    -- A name that is known of the snapshot but not here is that of an annotated declaration.
    by_cases named : name ∈ declarationNames (before ++ late :: after)
    · obtain ⟨decl, member, rfl⟩ := List.mem_map.mp named
      have lost : decl ∉ second.declarations := fun again => known (List.mem_map_of_mem again)
      rw [listed, List.mem_append, not_or, List.mem_singleton] at lost
      have other : decl ∈ before ++ after :=
        (List.mem_cons.mp (List.perm_middle.mem_iff.mp member)).resolve_left lost.2
      refine .inr ⟨nothing, decl, other, ?_, rfl⟩
      cases marked : decl.isMarked with
      | true => rfl
      | false => exact absurd (List.mem_filter.mpr ⟨other, by rw [marked]; rfl⟩) lost.1
    · rw [← whole] at named
      rw [nothing, SymbolTable.supertypeNames_of_not_mem named]
      exact .inl rfl

theorem apartFrom_eq : apartFrom late (before ++ late :: after) = before ++ after := by
  have others : ∀ decls ⊆ before ++ after, apartFrom late decls = decls := by
    intro decls known
    refine List.filter_eq_self.mpr fun decl member => decide_eq_true ?_
    rintro rfl
    exact name_not_mem distinct (List.mem_map_of_mem (known member))
  have first := others before (List.subset_append_left _ _)
  have rest := others after (List.subset_append_right _ _)
  unfold apartFrom at first rest ⊢
  rw [List.filter_append, List.filter_cons_of_neg (by simp), first, rest]

end Postponed

section Rounds

variable {before after : List Declaration} {late : Declaration}
  (deferrable : Deferrable (before ++ late :: after) late)
include deferrable

theorem Deferrable.resolved_others : ∀ decl ∈ before ++ after, decl.resolved = true :=
  fun decl member =>
    deferrable.resolved decl (List.perm_middle.mem_iff.mpr (List.mem_cons_of_mem _ member))

/-- The tables of the two rounds of a build in which a declaration comes late. -/
theorem Deferrable.split :
    SymbolTable.Split (before ++ after) late (.ofList (before ++ late :: after))
      (.ofList (before ++ late.unresolved :: after))
      (.ofList (libraryOf (before ++ after) ++ [late])) := by
  have distinct := deferrable.distinct
  have moved : ∀ decl : Declaration,
      (before ++ decl :: after).Perm ((before ++ after) ++ [decl]) := fun decl =>
    List.perm_middle.trans (List.perm_append_singleton _ _).symm
  constructor
  case wholePerm =>
    rw [SymbolTable.declarations_ofList distinct]
    exact moved late
  case firstPerm =>
    rw [declarations_postponed distinct]
    exact moved late.unresolved
  case secondEq => exact SymbolTable.declarations_ofList (nodup_library distinct rfl)
  case resolved =>
    intro decl member
    exact deferrable.resolved decl ((moved late).mem_iff.mpr member)
  case firstAlike =>
    intro decl _
    exact SymbolTable.alike_of_supertypeNames (supertypeNames_postponed distinct) decl

theorem Deferrable.table_eq {σ : Type} {pipeline : Pipeline} {sink : Sink σ} {start : σ} :
    (pipeline.deliver sink { state := start }
      (postpone late (before ++ late :: after))).2.carry.table [late] =
        .ofList (libraryOf (before ++ after) ++ [late]) := by
  rw [postpone_eq deferrable.distinct]
  exact table_redelivered deferrable.distinct deferrable.resolved_others deferrable.marked

/-- Such a build ends with what its rounds found, unless two interceptors clash. -/
theorem Deferrable.ends {σ : Type} {pipeline : Pipeline} {inner : Sink σ} {start : σ}
    {module : String} (named : pipeline.options.moduleName = some module) (accepts : inner.Accepts)
    {first second : SymbolTable} (firstEq : first = .ofList (before ++ late.unresolved :: after))
    (secondEq : second = .ofList (libraryOf (before ++ after) ++ [late]))
    (firstSound : (first.stagedHooks .empty).fatal = none)
    (secondSound : (second.stagedHooks (first.stagedHooks .empty).table).fatal = none) :
    (pipeline.buildAll (.writeOnce inner.noting) ⟨(start, []), []⟩
      [postpone late (before ++ late :: after), [late]]).Ends pipeline.language
        (second.staged (first.staged {}))
        (pipeline.roundOffer first {} ++ pipeline.roundOffer second (first.staged {}) ++
          pipeline.finishOffer (second.staged (first.staged {}))) := by
  have split : SymbolTable.Split (before ++ after) late (.ofList (before ++ late :: after))
      first second := by
    rw [firstEq, secondEq]
    exact deferrable.split
  refine Pipeline.ends_pair named accepts ?_ ?_ firstSound
    (split.runRound_second named (Sink.accepts_noting accepts) secondSound)
  · rw [firstEq, postpone_eq deferrable.distinct]
  · rw [secondEq, deferrable.table_eq]

/-- Such builds of classes that are neither routes nor interceptors come down to injectors. -/
theorem Deferrable.ends_plain {σ : Type} {pipeline : Pipeline} {inner : Sink σ} {start : σ}
    {module : String} (named : pipeline.options.moduleName = some module)
    (accepts : inner.Accepts) (plain : ∀ decl ∈ before ++ late :: after, decl.marks = {}) :
    (pipeline.buildAll (.writeOnce inner.noting) ⟨(start, []), []⟩
        [before ++ late :: after]).Ends pipeline.language {}
          (Pipeline.injectorOffer (.ofList (before ++ late :: after))) ∧
      (pipeline.buildAll (.writeOnce inner.noting) ⟨(start, []), []⟩
        [postpone late (before ++ late :: after), [late]]).Ends pipeline.language {}
          (Pipeline.injectorOffer (.ofList (before ++ late.unresolved :: after)) ++
            Pipeline.injectorOffer (.ofList (libraryOf (before ++ after) ++ [late]))) := by
  have split := deferrable.split
  have known : ∀ decl ∈ (before ++ after) ++ [late], decl.marks = {} := fun decl member =>
    plain decl (List.perm_middle.mem_iff.mpr
      ((List.perm_append_singleton _ _).mem_iff.mp member))
  obtain ⟨wholeOffer, wholeStaged, wholeSound⟩ :=
    @Pipeline.roundOffer_of_plain pipeline (.ofList (before ++ late :: after))
      (fun decl member => known decl (split.wholePerm.mem_iff.mp member)) {}
  obtain ⟨firstOffer, firstStaged, firstSound⟩ :=
    @Pipeline.roundOffer_of_plain pipeline (.ofList (before ++ late.unresolved :: after))
      (by
        intro decl member
        rcases List.mem_append.mp (split.firstPerm.mem_iff.mp member) with other | last
        · exact known decl (List.mem_append_left _ other)
        · rw [List.mem_singleton.mp last]
          exact known late (List.mem_append_right _ List.mem_cons_self)) {}
  obtain ⟨secondOffer, secondStaged, secondSound⟩ :=
    @Pipeline.roundOffer_of_plain pipeline (.ofList (libraryOf (before ++ after) ++ [late]))
      (by
        intro decl member
        rw [split.secondEq] at member
        rcases List.mem_append.mp member with library | last
        · exact known decl (List.mem_append_left _ (List.mem_filter.mp library).1)
        · exact known decl (List.mem_append_right _ last)) {}
  have whole : (pipeline.buildAll (.writeOnce inner.noting) ⟨(start, []), []⟩
      [before ++ late :: after]).Ends _ _ _ := Pipeline.ends_single named accepts rfl wholeSound
  have taken : (((SymbolTable.ofList (before ++ late.unresolved :: after)).stagedHooks
      .empty).table) = .empty := congrArg BuildState.hooks firstStaged
  have pair : (pipeline.buildAll (.writeOnce inner.noting) ⟨(start, []), []⟩
      [postpone late (before ++ late :: after), [late]]).Ends _ _ _ :=
    deferrable.ends named accepts rfl rfl firstSound (by rw [taken]; exact secondSound)
  have nothing : pipeline.finishOffer {} = [] := rfl
  rw [wholeStaged, wholeOffer, nothing, List.append_nil] at whole
  rw [firstStaged, secondStaged, firstOffer, secondOffer, nothing, List.append_nil] at pair
  exact ⟨whole, pair⟩

end Rounds

end RouteAtlas
