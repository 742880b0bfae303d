import RouteAtlas.Proofs.Except
import RouteAtlas.Proofs.Round.Offers
import RouteAtlas.Proofs.Unit.Tables

/-! # Tables under new names

The tables of a module can always be rendered, and each goes by a name of its own. Hence they are
written without a failure when none of their names was used before, and a round whose tables are
new takes over all routes and interceptors that it found.
-/

namespace RouteAtlas

section Names

theorem UnitKey.group_injective {a b : String} (same : UnitKey.group a = UnitKey.group b) :
    a = b := by
  have letters := congrArg (fun key : UnitKey => key.name.toList) same
  simp only [UnitKey.group, String.toList_append] at letters
  exact String.toList_injective (List.append_cancel_left letters)

theorem UnitKey.group_ne_providers (group module : String) :
    UnitKey.group group ≠ .providers module := by
  intro same
  have letters := congrArg (fun key : UnitKey => key.name.toList[9]?) same
  simp [UnitKey.group, UnitKey.providers, Contract.groupUnit, Contract.providersUnit] at letters

theorem UnitKey.group_ne_root (group module : String) : UnitKey.group group ≠ .root module := by
  intro same
  have letters := congrArg (fun key : UnitKey => key.name.toList[9]?) same
  simp [UnitKey.group, UnitKey.root, Contract.groupUnit, Contract.rootUnit] at letters

theorem UnitKey.providers_ne_root (module : String) :
    UnitKey.providers module ≠ .root module := by
  intro same
  have letters := congrArg (fun key : UnitKey => key.name.toList[9]?) same
  simp [UnitKey.providers, UnitKey.root, Contract.providersUnit, Contract.rootUnit] at letters

theorem RouteTable.nodup_keys_units (module : String) (table : RouteTable) :
    ((table.units module).map GeneratedUnit.key).Nodup := by
  rw [units, List.map_append, keys_groupUnits, List.nodup_append]
  refine ⟨?_, ?_, ?_⟩
  · exact (SortedMap.nodup_keys table.groups).map fun a b => UnitKey.group_injective
  · simpa [providerUnit, rootUnit] using UnitKey.providers_ne_root module
  · intro key ofGroup other ofModule
    obtain ⟨group, -, rfl⟩ := List.mem_map.mp ofGroup
    simp only [List.map_cons, List.map_nil, List.mem_cons, List.not_mem_nil, or_false] at ofModule
    rcases ofModule with rfl | rfl
    · exact UnitKey.group_ne_providers group module
    · exact UnitKey.group_ne_root group module

end Names

section Rendering

variable {language : Language} {table : RouteTable} {module : String}

theorem RouteTable.WellFormed.ne_empty (wellFormed : table.WellFormed) {name : String}
    (member : name ∈ table.groupNames) : name ≠ "" := by
  obtain ⟨⟨_, paths⟩, entry, rfl⟩ := List.mem_map.mp member
  obtain ⟨path, held⟩ := RouteTable.exists_slot wellFormed.full entry
  obtain ⟨record, stored⟩ := List.exists_mem_of_ne_nil _ held
  rw [← (wellFormed.filed stored).1]
  exact (wellFormed.valid stored).named

theorem RouteTable.WellFormed.checkIdentifier (wellFormed : table.WellFormed) {name : String}
    (member : name ∈ table.groupNames) (key : UnitKey) :
    RouteAtlas.checkIdentifier key name = .ok () := by
  have filled : name.isEmpty = false := by
    simpa [String.isEmpty_iff] using wellFormed.ne_empty member
  have allowed : name.toList.all (fun c => QualifiedName.isWordChar c || c == '$') = true := by
    refine List.all_eq_true.mpr fun c letter => ?_
    rw [List.all_eq_true.mp (wellFormed.isGroupName member) c letter, Bool.true_or]
  rw [RouteAtlas.checkIdentifier, filled, allowed]
  rfl

theorem RouteTable.WellFormed.render (wellFormed : table.WellFormed) {unit : GeneratedUnit}
    (member : unit ∈ table.units module) : ∃ rendered, language.render unit = .ok rendered := by
  have checked : unit.body.check unit.key = .ok () := by
    rcases RouteTable.mem_units.mp member with ⟨entry, listed, rfl⟩ | rfl | rfl
    · apply wellFormed.checkIdentifier
      rw [← RouteTable.names_listing]
      exact List.mem_map_of_mem listed
    · rfl
    · refine forM_eq_ok_iff.mpr fun group listed => ?_
      obtain ⟨name, known, rfl⟩ := List.mem_map.mp listed
      exact wellFormed.checkIdentifier known _
  exact Language.exists_render_eq_ok checked

end Rendering

namespace Language

variable {σ : Type} (language : Language)

theorem find_renderAll_eq_none {units : List GeneratedUnit} {key : UnitKey}
    (absent : ∀ unit ∈ units, unit.key ≠ key) :
    Ledger.find (language.renderAll units) key = none := by
  rw [Ledger.find_eq_none_iff]
  intro known
  obtain ⟨rendered, made, here⟩ := List.mem_map.mp known
  obtain ⟨unit, member, done⟩ := language.mem_renderAll.mp made
  rw [(render_eq_ok done).1] at here
  exact absent unit member here

/-- Units that can be rendered are written if their names are new and differ. -/
theorem isClean_of_fresh {inner : Sink σ} (accepts : inner.Accepts) {start : σ} {ledger : Ledger}
    {state : WriteOnce σ} (kept : ledger.Kept inner start state) {units : List GeneratedUnit}
    (rendered : ∀ unit ∈ units, ∃ rendered, language.render unit = .ok rendered)
    (distinct : (units.map GeneratedUnit.key).Nodup)
    (fresh : ∀ unit ∈ units, ledger.find unit.key = none) :
    (language.emit (.writeOnce inner) state units).report.isClean = true := by
  induction units generalizing ledger state with
  | nil => rfl
  | cons unit rest ih =>
      obtain ⟨absent, others⟩ := List.nodup_cons.mp distinct
      rw [isClean_emit_cons]
      constructor
      · obtain ⟨text, done⟩ := rendered unit List.mem_cons_self
        obtain ⟨status, written⟩ := accepts state.inner text
        have unknown : ledger.find text.key = none := by
          rw [(render_eq_ok done).1]
          exact fresh unit List.mem_cons_self
        refine ⟨status, ?_⟩
        rw [emitUnit_of_ok _ done]
        exact congrArg Prod.fst (kept.write_fresh unknown written)
      · apply ih (language.kept_emitUnit accepts kept unit)
          (fun other later => rendered other (List.mem_cons_of_mem _ later)) others
        intro other later
        rw [Ledger.find_addAll, fresh other (List.mem_cons_of_mem _ later), Option.none_or]
        apply language.find_renderAll_eq_none
        intro first here same
        rw [List.mem_singleton.mp here] at same
        rw [same] at absent
        exact absent (List.mem_map_of_mem later)

end Language

namespace Pipeline

variable {σ : Type} {pipeline : Pipeline} {inner : Sink σ} {start : σ} {module : String}
  {ledger : Ledger} {state : WriteOnce σ} {table : SymbolTable} {build : BuildState}

theorem isRouteKey_of_mem_routeOffer (named : pipeline.options.moduleName = some module)
    {routes : RouteTable} (wellFormed : routes.WellFormed) {unit : GeneratedUnit}
    (member : unit ∈ pipeline.routeOffer table routes) : IsRouteKey module unit.key := by
  rcases routeOffer_cases named routes with nothing | all
  · rw [nothing] at member
    cases member
  · rw [all] at member
    exact (RouteTable.wellFormed_insertAll wellFormed _).isRouteKey member

theorem key_of_mem_hookOffer (named : pipeline.options.moduleName = some module)
    {hooks : HookTable} {unit : GeneratedUnit} (member : unit ∈ pipeline.hookOffer table hooks) :
    unit.key = .interceptors module := by
  rcases hookOffer_cases named hooks with nothing | one
  · rw [nothing] at member
    cases member
  · rw [one] at member
    rw [List.mem_singleton.mp member]
    rfl

section Find

variable {key : UnitKey}

theorem find_routeOffer_eq_none (named : pipeline.options.moduleName = some module)
    {routes : RouteTable} (wellFormed : routes.WellFormed) (other : ¬IsRouteKey module key) :
    Ledger.find (pipeline.language.renderAll (pipeline.routeOffer table routes)) key = none := by
  apply pipeline.language.find_renderAll_eq_none
  rintro unit member rfl
  exact other (isRouteKey_of_mem_routeOffer named wellFormed member)

theorem find_hookOffer_eq_none (named : pipeline.options.moduleName = some module)
    {hooks : HookTable} (other : key ≠ .interceptors module) :
    Ledger.find (pipeline.language.renderAll (pipeline.hookOffer table hooks)) key = none := by
  apply pipeline.language.find_renderAll_eq_none
  rintro unit member rfl
  exact other (key_of_mem_hookOffer named member)

theorem find_injectorOffer_eq_none (isTable : IsTableKey module key) :
    Ledger.find (pipeline.language.renderAll (injectorOffer table)) key = none := by
  apply pipeline.language.find_renderAll_eq_none
  rintro unit member rfl
  obtain ⟨plan, rfl⟩ := mem_injectorOffer member
  exact isTable.ne_injector plan.target rfl

end Find

/-- A round whose tables are new takes over all that it found, unless two interceptors clash. -/
theorem runRound_fresh (named : pipeline.options.moduleName = some module)
    (accepts : inner.Accepts) (kept : ledger.Kept inner start state)
    (wellFormed : build.routes.WellFormed) (sound : (table.stagedHooks build.hooks).fatal = none)
    (freshRoutes : ∀ unit ∈ pipeline.routeOffer table build.routes, ledger.find unit.key = none)
    (freshHooks : ∀ unit ∈ pipeline.hookOffer table build.hooks, ledger.find unit.key = none) :
    (pipeline.runRound (.writeOnce inner) build table state).1.state = table.staged build := by
  have routes : (pipeline.language.emit (.writeOnce inner) state
      (pipeline.routeOffer table build.routes)).report.isClean = true := by
    rcases routeOffer_cases named build.routes with nothing | all
    · rw [nothing]
      rfl
    · rw [all] at freshRoutes ⊢
      have stagedFormed : (table.stagedRoutes build.routes).WellFormed :=
        RouteTable.wellFormed_insertAll wellFormed _
      exact pipeline.language.isClean_of_fresh accepts kept
        (fun unit member => stagedFormed.render member)
        (RouteTable.nodup_keys_units module _) freshRoutes
  have hooks : (pipeline.language.emit (.writeOnce inner)
      (pipeline.language.emit (.writeOnce inner) state
        (pipeline.routeOffer table build.routes)).state
      (pipeline.hookOffer table build.hooks)).report.isClean = true := by
    -- The tables of the routes were written before, but none of them under this name.
    have after := pipeline.language.kept_emit accepts kept
      (pipeline.routeOffer table build.routes)
    have unknown : ∀ unit ∈ pipeline.hookOffer table build.hooks,
        (ledger.addAll (pipeline.language.renderAll
          (pipeline.routeOffer table build.routes))).find unit.key = none := by
      intro unit member
      rw [Ledger.find_addAll, freshHooks unit member, Option.none_or]
      apply find_routeOffer_eq_none named wellFormed
      rw [key_of_mem_hookOffer named member]
      exact fun isRoute => isRoute.ne_interceptors module rfl
    rcases hookOffer_cases named build.hooks with nothing | one
    · rw [nothing]
      rfl
    · rw [one] at unknown ⊢
      refine pipeline.language.isClean_of_fresh accepts after ?_ ?_ unknown
      · intro unit member
        rw [List.mem_singleton.mp member]
        exact ⟨_, rfl⟩
      · exact List.nodup_singleton _
  simp only [runRound, SymbolTable.staged]
  rw [routes_of_clean named _ (by rw [(runRoutes_offer _).2]; exact routes),
    hooks_of_clean named _ (by rw [fatal_runHooks named]; exact sound)
      (by rw [(runHooks_offer _).2, (runRoutes_offer _).1]; exact hooks)]

end Pipeline

end RouteAtlas
