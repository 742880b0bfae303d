import RouteAtlas.Proofs.Build.Retry

/-! # The units of a round

The units that a round offers to the sink go by different names and have different paths, as long as
the names of its classes do. All of them can be rendered, since a group of routes has a name that may
become part of the name of a class.
-/

namespace RouteAtlas

/-- A name that starts with a dot has the parts of the name without it. No other two names have the
    same parts. -/
theorem QualifiedName.eq_of_parts {a b : String} (aPlain : a.toList.head? ≠ some '.')
    (bPlain : b.toList.head? ≠ some '.') (packages : package a = package b)
    (simples : simple a = simple b) : a = b := by
  unfold QualifiedName.package at packages
  unfold QualifiedName.simple at simples
  cases aSplit : splitLast '.' a.toList with
  | none =>
      cases bSplit : splitLast '.' b.toList with
      | none => simpa [aSplit, bSplit] using simples
      | some parts =>
          have empty : parts.1 = [] := by
            simpa [aSplit, bSplit, ← String.toList_inj] using packages
          rw [eq_append_of_splitLast bSplit, empty] at bPlain
          exact absurd rfl bPlain
  | some parts =>
      cases bSplit : splitLast '.' b.toList with
      | none =>
          have empty : parts.1 = [] := by
            simpa [aSplit, bSplit, ← String.toList_inj] using packages
          rw [eq_append_of_splitLast aSplit, empty] at aPlain
          exact absurd rfl aPlain
      | some others =>
          simp only [aSplit, bSplit, String.ofList_inj] at packages simples
          apply String.toList_injective
          rw [eq_append_of_splitLast aSplit, eq_append_of_splitLast bSplit, packages, simples]

theorem UnitKey.injector_injective {a b : TypeRef} (aPlain : a.name.toList.head? ≠ some '.')
    (bPlain : b.name.toList.head? ≠ some '.') (same : injector a = injector b) :
    a.name = b.name := by
  have packages := congrArg UnitKey.package same
  have names := congrArg (fun key : UnitKey => key.name.toList) same
  simp only [injector, String.toList_append] at names
  exact QualifiedName.eq_of_parts aPlain bPlain packages
    (String.toList_injective (List.append_cancel_right names))

/-- A class name from which its package and its folder can be told. -/
structure Declaration.IsPlain (decl : Declaration) : Prop where
  noSlash : '/' ∉ decl.qualifiedName.toList
  noDot : decl.qualifiedName.toList.head? ≠ some '.'

namespace SymbolTable

variable {table : SymbolTable}

theorem distinct_owners (table : SymbolTable) : (declarationNames table.owners).Nodup := by
  rw [declarationNames, List.Nodup, List.pairwise_map]
  refine table.owners_ascending.imp fun {a b} below same => ?_
  rw [same] at below
  exact String.lt_irrefl _ below

theorem mem_plans {plan : InjectorPlan} (member : plan ∈ table.plans) :
    ∃ owner ∈ table.declarations, plan.target = owner.asType := by
  obtain ⟨owner, found, target⟩ := mem_plansOf member
  exact ⟨owner, (mem_owners.mp (List.mem_filter.mp found).1).1, target⟩

theorem nodup_targets_plans (table : SymbolTable) :
    (table.plans.map InjectorPlan.target).Nodup := by
  refine nodup_targets (fun {owner plan} made => ?_) (distinct_resolvedOnes table.distinct_owners)
  have one : plan ∈ table.plansOf [owner] := by
    simp [plansOf, made]
  obtain ⟨other, same, target⟩ := mem_plansOf one
  rw [target, List.mem_singleton.mp same]

end SymbolTable

namespace Pipeline

variable {pipeline : Pipeline} {table : SymbolTable} {build : BuildState}

section Tables

variable {unit : GeneratedUnit}

theorem mem_routeOffer {routes : RouteTable} (member : unit ∈ pipeline.routeOffer table routes) :
    ∃ module, unit ∈ (table.stagedRoutes routes).units module := by
  unfold routeOffer at member
  split at member
  · cases member
  · cases named : pipeline.options.moduleName with
    | none => simp [named] at member
    | some module => exact ⟨module, by simpa [named] using member⟩

theorem mem_hookOffer {hooks : HookTable} (member : unit ∈ pipeline.hookOffer table hooks) :
    ∃ module, unit = (table.stagedHooks hooks).table.unit module := by
  unfold hookOffer at member
  split at member
  · cases member
  · cases named : pipeline.options.moduleName with
    | none => simp [named] at member
    | some module => exact ⟨module, by simpa [named] using member⟩

theorem mem_finishOffer (member : unit ∈ pipeline.finishOffer build) :
    ∃ module, unit ∈ build.routes.units module ∨ unit = build.hooks.unit module := by
  cases named : pipeline.options.moduleName with
  | none => simp [finishOffer, routeFlush, hookFlush, named] at member
  | some module =>
      refine ⟨module, ?_⟩
      rw [finishOffer, routeFlush_eq named, hookFlush_eq named] at member
      rcases List.mem_append.mp member with ofRoutes | ofHooks
      · split at ofRoutes
        · cases ofRoutes
        · exact .inl ofRoutes
      · split at ofHooks
        · cases ofHooks
        · exact .inr (List.mem_singleton.mp ofHooks)

end Tables

section Names

theorem nodup_keys_injectorOffer
    (plain : ∀ decl ∈ table.declarations, decl.IsPlain) :
    ((injectorOffer table).map GeneratedUnit.key).Nodup := by
  unfold injectorOffer
  split
  · exact List.nodup_nil
  · have keys : (table.plans.map InjectorPlan.unit).map GeneratedUnit.key =
        (table.plans.map InjectorPlan.target).map UnitKey.injector := by
      rw [List.map_map, List.map_map]
      rfl
    rw [keys]
    refine table.nodup_targets_plans.map_on fun a aIn b bIn same => ?_
    obtain ⟨plan, made, rfl⟩ := List.mem_map.mp aIn
    obtain ⟨other, otherMade, rfl⟩ := List.mem_map.mp bIn
    obtain ⟨owner, listed, target⟩ := SymbolTable.mem_plans made
    obtain ⟨otherOwner, otherListed, otherTarget⟩ := SymbolTable.mem_plans otherMade
    rw [target, otherTarget] at same ⊢
    have names := UnitKey.injector_injective (plain owner listed).noDot
      (plain otherOwner otherListed).noDot same
    exact congrArg TypeRef.named names

theorem nodup_keys_routeOffer (routes : RouteTable) :
    ((pipeline.routeOffer table routes).map GeneratedUnit.key).Nodup := by
  unfold routeOffer
  split
  · exact List.nodup_nil
  · cases pipeline.options.moduleName with
    | none => exact List.nodup_nil
    | some module => exact RouteTable.nodup_keys_units module _

theorem nodup_keys_hookOffer (hooks : HookTable) :
    ((pipeline.hookOffer table hooks).map GeneratedUnit.key).Nodup := by
  unfold hookOffer
  split
  · exact List.nodup_nil
  · cases pipeline.options.moduleName with
    | none => exact List.nodup_nil
    | some module => exact List.nodup_singleton _

/-- No two units of a round go by one name. -/
theorem nodup_keys_roundOffer (pipeline : Pipeline) (routes : build.routes.WellFormed)
    (plain : ∀ decl ∈ table.declarations, decl.IsPlain) :
    ((pipeline.roundOffer table build).map GeneratedUnit.key).Nodup := by
  rw [roundOffer, List.map_append, List.map_append, List.nodup_append, List.nodup_append]
  refine ⟨⟨nodup_keys_routeOffer _, nodup_keys_hookOffer _, ?_⟩, nodup_keys_injectorOffer plain, ?_⟩
  · intro key ofRoutes other ofHooks
    obtain ⟨unit, member, rfl⟩ := List.mem_map.mp ofRoutes
    obtain ⟨hookUnit, hookMember, rfl⟩ := List.mem_map.mp ofHooks
    obtain ⟨module, listed⟩ := mem_routeOffer member
    obtain ⟨hookModule, rfl⟩ := mem_hookOffer hookMember
    have isRoute := (RouteTable.wellFormed_insertAll routes _).isRouteKey listed
    exact isRoute.ne_interceptors hookModule
  · intro key ofTables other ofInjectors
    rw [← List.map_append] at ofTables
    obtain ⟨unit, member, rfl⟩ := List.mem_map.mp ofTables
    obtain ⟨injector, injectorIn, rfl⟩ := List.mem_map.mp ofInjectors
    obtain ⟨module, isTable⟩ := isTableKey_of_mem_offers routes member
    obtain ⟨plan, rfl⟩ := mem_injectorOffer injectorIn
    exact isTable.ne_injector plan.target

/-- No two units of a round go to one file. -/
theorem nodup_paths_roundOffer (routes : build.routes.WellFormed)
    (plain : ∀ decl ∈ table.declarations, decl.IsPlain) (extension : String) :
    ((pipeline.roundOffer table build).map fun unit => unit.key.path extension).Nodup := by
  have keys := nodup_keys_roundOffer pipeline routes plain
  have paths : (pipeline.roundOffer table build).map (fun unit => unit.key.path extension) =
      ((pipeline.roundOffer table build).map GeneratedUnit.key).map
        fun key => key.path extension := by
    rw [List.map_map]
    rfl
  rw [paths]
  refine keys.map_on fun a aIn b bIn => ?_
  obtain ⟨unit, member, rfl⟩ := List.mem_map.mp aIn
  obtain ⟨other, otherMember, rfl⟩ := List.mem_map.mp bIn
  have noSlash := fun decl listed => (plain decl listed).noSlash
  exact UnitKey.path_injective_of_plain (plain_of_mem_roundOffer routes noSlash member)
    (plain_of_mem_roundOffer routes noSlash otherMember)

end Names

section Rendering

variable {language : Language} {unit : GeneratedUnit}

theorem render_of_mem_roundOffer (routes : build.routes.WellFormed)
    (member : unit ∈ pipeline.roundOffer table build) :
    ∃ rendered, language.render unit = .ok rendered := by
  rw [roundOffer, List.mem_append, List.mem_append] at member
  rcases member with (ofRoutes | ofHooks) | ofInjectors
  · obtain ⟨module, listed⟩ := mem_routeOffer ofRoutes
    exact (RouteTable.wellFormed_insertAll routes _).render listed
  · obtain ⟨module, rfl⟩ := mem_hookOffer ofHooks
    exact ⟨_, rfl⟩
  · obtain ⟨plan, rfl⟩ := mem_injectorOffer ofInjectors
    exact ⟨_, rfl⟩

theorem render_of_mem_finishOffer (routes : build.routes.WellFormed)
    (member : unit ∈ pipeline.finishOffer build) :
    ∃ rendered, language.render unit = .ok rendered := by
  obtain ⟨module, listed | rfl⟩ := mem_finishOffer member
  · exact routes.render listed
  · exact ⟨_, rfl⟩

end Rendering

end Pipeline

end RouteAtlas
