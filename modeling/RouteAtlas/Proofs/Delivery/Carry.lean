import RouteAtlas.Delivery
import RouteAtlas.Proofs.SortedMap
import RouteAtlas.Proofs.SymbolTable

/-! # What a round carries on

A round puts off the annotated declarations whose types are not all known, whatever it does about
the others. The next one sees them again, with the declarations that are not annotated.
-/

namespace RouteAtlas

/-- Whether a class has annotated fields. -/
def Declaration.isWired (decl : Declaration) : Bool :=
  !decl.injected.isEmpty

theorem Declaration.isWired_iff {decl : Declaration} :
    decl.isWired = true ↔ decl.injected ≠ [] := by
  simp [isWired]

theorem Declaration.isMarked_iff {decl : Declaration} :
    decl.isMarked = true ↔
      decl.marks.route.isSome = true ∨ decl.marks.hook.isSome = true ∨ decl.injected ≠ [] := by
  have fields : decl.injected ≠ [] ↔ decl.properties.any Property.isMarked = true := by
    rw [List.any_eq_true, injected, ne_eq, List.filter_eq_nil_iff]
    simp
  rw [isMarked, Bool.or_eq_true, Bool.or_eq_true, fields, or_assoc]

namespace SymbolTable

variable {table : SymbolTable} {decl : Declaration}

/-- The classes with annotated fields are some of the declarations. -/
theorem owners_perm (table : SymbolTable) :
    table.owners.Perm (table.declarations.filter Declaration.isWired) := by
  let entries := (table.declarations.filter Declaration.isWired).map fun decl =>
    (decl.qualifiedName, decl)
  have distinct : (entries.map Prod.fst).Nodup := by
    rw [List.map_map]
    exact table.distinct.sublist (List.filter_sublist.map _)
  have values := (SortedMap.entries_ofList_perm distinct).map Prod.snd
  rw [List.map_map] at values
  change table.owners.Perm (List.map id _) at values
  rwa [List.map_id] at values

theorem mem_owners : decl ∈ table.owners ↔ decl ∈ table.declarations ∧ decl.injected ≠ [] := by
  rw [table.owners_perm.mem_iff, List.mem_filter, Declaration.isWired_iff]

theorem found_owners_perm (table : SymbolTable) :
    (resolvedOnes table.owners).Perm
      (resolvedOnes (table.declarations.filter Declaration.isWired)) :=
  table.owners_perm.filter _

theorem owners_ascending (table : SymbolTable) :
    table.owners.Pairwise fun a b => a.qualifiedName < b.qualifiedName := by
  rw [owners, SortedMap.values, List.pairwise_map]
  refine (SortedMap.ascending _).imp_of_mem fun {a b} aIn bIn below => ?_
  have named : ∀ entry : String × Declaration,
      entry ∈ (table.declarations.filter Declaration.isWired).map (fun decl =>
        (decl.qualifiedName, decl)) → entry.1 = entry.2.qualifiedName := by
    intro entry member
    obtain ⟨decl, -, rfl⟩ := List.mem_map.mp member
    rfl
  rwa [← named a (SortedMap.mem_of_mem_ofList aIn), ← named b (SortedMap.mem_of_mem_ofList bIn)]

/-- Classes in order of their names are determined by which they are. -/
theorem owners_eq {first second : List Declaration} (perm : first.Perm second)
    (ascending : first.Pairwise fun a b => a.qualifiedName < b.qualifiedName)
    (otherAscending : second.Pairwise fun a b => a.qualifiedName < b.qualifiedName) :
    first = second := by
  refine perm.eq_of_pairwise ?_ ascending otherAscending
  intro a b _ _ below above
  exact absurd (LinearKey.trans below above) (LinearKey.irrefl _)

end SymbolTable

namespace Pipeline

variable {σ : Type} {pipeline : Pipeline} {sink : Sink σ} {table : SymbolTable} {state : σ}
  {build : BuildState} {name : String}

theorem deferred_writeRoutes (before staged : RouteTable) (report : Report) :
    (pipeline.writeRoutes sink before staged state report).report.deferred = report.deferred := by
  simp only [writeRoutes]
  split
  · rfl
  · split <;> rfl

theorem deferred_runRoutes (routes : RouteTable) :
    (pipeline.runRoutes sink table routes state).report.deferred =
      declarationNames (pendingOnes table.routes) := by
  simp only [runRoutes]
  split
  · rfl
  · split
    · exact deferred_writeRoutes ..
    · rfl

theorem deferred_writeHooks (module : String) (before staged : HookTable) (report : Report) :
    (pipeline.writeHooks sink module before staged state report).report.deferred =
      report.deferred := by
  simp only [writeHooks]
  split <;> rfl

theorem deferred_runHooks (hooks : HookTable) :
    (pipeline.runHooks sink table hooks state).report.deferred =
      declarationNames (pendingOnes table.hooks) := by
  simp only [runHooks]
  split
  · rfl
  · split
    · rfl
    · split
      · rfl
      · split
        · exact deferred_writeHooks ..
        · rfl

theorem deferred_runInjectors :
    (pipeline.runInjectors sink table state).report.deferred =
      declarationNames (pendingOnes table.owners) := by
  simp only [runInjectors]
  split
  · rfl
  · split <;> rfl

/-- A round puts off the annotated declarations whose types are not all known. -/
theorem mem_deferred :
    name ∈ (pipeline.runRound sink build table state).1.deferred ↔
      ∃ decl ∈ table.declarations, decl.resolved = false ∧ decl.isMarked = true ∧
        decl.qualifiedName = name := by
  have put : ∀ (found : List Declaration) {mark : Declaration → Prop},
      (∀ decl, decl ∈ found ↔ decl ∈ table.declarations ∧ mark decl) →
        (name ∈ declarationNames (pendingOnes found) ↔
          ∃ decl ∈ table.declarations, decl.resolved = false ∧ mark decl ∧
            decl.qualifiedName = name) := by
    intro found mark marked
    simp only [declarationNames, pendingOnes, List.mem_map, List.mem_filter, marked,
      Bool.not_eq_true']
    grind
  have routes := put table.routes fun decl => List.mem_filter
  have hooks := put table.hooks fun decl => List.mem_filter
  have owners := put table.owners fun decl => SymbolTable.mem_owners
  rw [RoundOutcome.deferred, mem_sortedDistinct]
  simp only [runRound, List.flatMap_cons, List.flatMap_nil, List.append_nil, List.mem_append]
  rw [deferred_runRoutes, deferred_runHooks, deferred_runInjectors, routes, hooks, owners]
  simp only [Declaration.isMarked_iff]
  grind

end Pipeline

/-- A declaration before every type that it mentions is known. -/
def Declaration.unresolved (decl : Declaration) : Declaration :=
  { decl with resolved := false }

/-- A snapshot with one of its declarations not resolved yet. -/
def postpone (late : Declaration) (snapshot : List Declaration) : List Declaration :=
  snapshot.map fun decl => if decl = late then decl.unresolved else decl

/-- The declarations that are carried on because others may refer to them. -/
def libraryOf (decls : List Declaration) : List Declaration :=
  decls.filter fun decl => !decl.isMarked

section Postponed

variable {before after : List Declaration} {late : Declaration}
  (distinct : (declarationNames (before ++ late :: after)).Nodup)
include distinct

theorem name_not_mem : late.qualifiedName ∉ declarationNames (before ++ after) :=
  (List.nodup_cons.mp ((List.perm_middle.map Declaration.qualifiedName).nodup distinct)).1

theorem nodup_names : (declarationNames (before ++ after)).Nodup :=
  (List.nodup_cons.mp ((List.perm_middle.map Declaration.qualifiedName).nodup distinct)).2

theorem postpone_eq :
    postpone late (before ++ late :: after) = before ++ late.unresolved :: after := by
  have others : ∀ decls ⊆ before ++ after, postpone late decls = decls := by
    intro decls known
    have same : ∀ decl ∈ decls, (if decl = late then decl.unresolved else decl) = decl := by
      intro decl member
      refine if_neg fun again => ?_
      rw [again] at member
      exact name_not_mem distinct (List.mem_map_of_mem (known member))
    rw [postpone, List.map_congr_left same, List.map_id']
  have first := others before (List.subset_append_left _ _)
  have rest := others after (List.subset_append_right _ _)
  unfold postpone at first rest ⊢
  rw [List.map_append, List.map_cons, if_pos rfl, first, rest]

theorem declarations_postponed :
    (SymbolTable.ofList (before ++ late.unresolved :: after)).declarations =
      before ++ late.unresolved :: after := by
  apply SymbolTable.declarations_ofList
  rw [declarationNames, List.map_append, List.map_cons] at distinct ⊢
  exact distinct

theorem name_not_mem_library : late.qualifiedName ∉ declarationNames (libraryOf (before ++ after)) :=
  fun known => name_not_mem distinct (List.map_subset _ List.filter_sublist.subset known)

/-- The library and the late declaration have different names. -/
theorem nodup_library {last : Declaration} (named : last.qualifiedName = late.qualifiedName) :
    (declarationNames (libraryOf (before ++ after) ++ [last])).Nodup := by
  rw [declarationNames, List.map_append, List.nodup_append]
  refine ⟨(nodup_names distinct).sublist (List.filter_sublist.map _), List.nodup_singleton _, ?_⟩
  intro name known other single same
  rw [List.map_singleton, List.mem_singleton] at single
  rw [same, single, named] at known
  exact name_not_mem_library distinct known

variable (resolved : ∀ decl ∈ before ++ after, decl.resolved = true)
  (marked : late.isMarked = true)
include resolved marked

/-- After a round over a snapshot that is resolved but for one annotated declaration, this one and
    the declarations without annotations are carried on. -/
theorem carry_deliver {σ : Type} {pipeline : Pipeline} {sink : Sink σ} {start : σ} :
    (pipeline.deliver sink { state := start } (before ++ late.unresolved :: after)).2.carry =
      ⟨libraryOf (before ++ after), [late.unresolved]⟩ := by
  let table := SymbolTable.ofList (before ++ late.unresolved :: after)
  have listed : table.declarations = before ++ late.unresolved :: after :=
    declarations_postponed distinct
  have put : ∀ name, name ∈ (pipeline.runRound sink {} table start).1.deferred ↔
      name = late.qualifiedName := by
    intro name
    rw [Pipeline.mem_deferred, listed]
    constructor
    · rintro ⟨decl, member, pending, -, rfl⟩
      rcases List.mem_cons.mp (List.perm_middle.mem_iff.mp member) with rfl | other
      · rfl
      · rw [resolved decl other] at pending
        cases pending
    · rintro rfl
      exact ⟨late.unresolved, List.mem_append_right _ List.mem_cons_self, rfl, marked, rfl⟩
  change Carry.advance {} table (pipeline.runRound sink {} table start).1.deferred = _
  simp only [Carry.advance, Carry.knows, List.any_nil, Bool.not_false, Bool.and_true,
    List.nil_append, listed, List.filter_append, libraryOf]
  have lateMarked : late.unresolved.isMarked = true := marked
  have others : ∀ decls ⊆ before ++ after, decls.filter (fun decl =>
      (pipeline.runRound sink {} table start).1.deferred.contains decl.qualifiedName) = [] := by
    intro decls known
    refine List.filter_eq_nil_iff.mpr fun decl member again => ?_
    rw [List.contains_iff_mem, put] at again
    apply name_not_mem distinct
    rw [← again]
    exact List.mem_map_of_mem (known member)
  have here : (pipeline.runRound sink {} table start).1.deferred.contains
      late.unresolved.qualifiedName = true := by
    rw [List.contains_iff_mem, put]
    rfl
  rw [List.filter_cons_of_neg (by simp [lateMarked]), others before (List.subset_append_left _ _),
    List.nil_append, List.filter_cons, if_pos here, others after (List.subset_append_right _ _)]

/-- The next round knows the library and, after it, the late declaration. -/
theorem table_redelivered {σ : Type} {pipeline : Pipeline} {sink : Sink σ} {start : σ} :
    (pipeline.deliver sink { state := start }
      (before ++ late.unresolved :: after)).2.carry.table [late] =
        .ofList (libraryOf (before ++ after) ++ [late]) := by
  apply SymbolTable.eq_ofList
  rw [carry_deliver distinct resolved marked]
  have library : (SymbolTable.ofList (libraryOf (before ++ after))).declarations = _ :=
    SymbolTable.declarations_ofList ((nodup_names distinct).sublist (List.filter_sublist.map _))
  have carried : ((SymbolTable.ofList (libraryOf (before ++ after))).extend
      [late.unresolved]).declarations = libraryOf (before ++ after) ++ [late.unresolved] := by
    rw [SymbolTable.declarations_extend, library]
    rw [library]
    exact nodup_library distinct rfl
  change SymbolTable.place late _ = _
  rw [carried, SymbolTable.place_append_of_not_mem (name_not_mem_library distinct)]
  exact congrArg _ (if_pos rfl)

end Postponed

end RouteAtlas
