import RouteAtlas.Proofs.Delivery.Injectors

/-! # Builds of one delivery and of two

What a build lets through to a sink that refuses nothing is determined by the units that its rounds
and its end offer. A round that is split in two offers the same units, tables first of all.
-/

namespace RouteAtlas

namespace Sink

variable {σ : Type}

/-- Units go on to another sink, and those that it accepts are noted. -/
def noting (inner : Sink σ) : Sink (σ × Ledger) where
  write state unit :=
    match inner.write state.1 unit with
    | (.ok status, after) => (.ok status, (after, state.2 ++ [unit]))
    | (.error error, after) => (.error error, (after, state.2))

variable {inner : Sink σ} (accepts : inner.Accepts)
include accepts

theorem write_noting (state : σ × Ledger) (unit : RenderedUnit) :
    ∃ status after, inner.noting.write state unit = (.ok status, (after, state.2 ++ [unit])) := by
  obtain ⟨status, written⟩ := accepts state.1 unit
  refine ⟨status, (inner.write state.1 unit).2, ?_⟩
  simp only [noting]
  split
  · rename_i other after done
    rw [done] at written ⊢
    cases written
    rfl
  · rename_i done
    rw [done] at written
    cases written

theorem accepts_noting : inner.noting.Accepts := by
  intro state unit
  obtain ⟨status, after, written⟩ := write_noting accepts state unit
  exact ⟨status, by rw [written]⟩

/-- All units that are written are noted, in order. -/
theorem noted_writeAll (state : σ × Ledger) (units : List RenderedUnit) :
    (inner.noting.writeAll state units).2 = state.2 ++ units := by
  induction units generalizing state with
  | nil => exact (List.append_nil _).symm
  | cons unit rest ih =>
      obtain ⟨status, after, written⟩ := write_noting accepts state unit
      change (inner.noting.writeAll (inner.noting.write state unit).2 rest).2 = _
      rw [ih, written, List.append_assoc, List.singleton_append]

end Sink

/-- A build from its first delivery to the tables at its end. -/
def Pipeline.buildAll {σ : Type} (pipeline : Pipeline) (sink : Sink σ) (start : σ)
    (deliveries : List (List Declaration)) : Session σ :=
  (pipeline.conclude sink (pipeline.deliverAll sink { state := start } deliveries).2).2

/-- A unit with the given name and source was let through to a sink that notes them. -/
def Session.Wrote {σ : Type} (session : Session (WriteOnce (σ × Ledger))) (key : UnitKey)
    (source : String) : Prop :=
  ∃ unit ∈ session.state.inner.2, unit.key = key ∧ unit.source = source

/-- A build has ended with the given state, and of each name among the units that it offered the
    first one was let through. -/
structure Session.Ends {σ : Type} (session : Session (WriteOnce (σ × Ledger)))
    (language : Language) (build : BuildState) (offered : List GeneratedUnit) : Prop where
  build : session.build = build
  wrote : ∀ {key source}, session.Wrote key source ↔
    ∃ unit, Ledger.find (language.renderAll offered) key = some unit ∧ unit.source = source

namespace Pipeline

variable {σ : Type} {pipeline : Pipeline} {inner : Sink σ} {start : σ} {module : String}

theorem wrote_iff {session : Session (WriteOnce (σ × Ledger))} {ledger : Ledger}
    (accepts : inner.Accepts)
    (kept : ledger.Kept inner.noting (start, []) session.state) {key : UnitKey} {source : String} :
    session.Wrote key source ↔
      ∃ unit, ledger.find key = some unit ∧ unit.source = source := by
  have noted : session.state.inner.2 = ledger := by
    rw [kept.below, Sink.noted_writeAll accepts, List.nil_append]
  rw [Session.Wrote, noted]
  constructor
  · rintro ⟨unit, member, rfl, written⟩
    exact ⟨unit, Ledger.find_of_mem kept.distinct member, written⟩
  · rintro ⟨unit, found, written⟩
    exact ⟨unit, Ledger.mem_of_find found, Ledger.key_of_find found, written⟩

theorem ends_of_kept {session : Session (WriteOnce (σ × Ledger))} {build : BuildState}
    {offered : List GeneratedUnit} (accepts : inner.Accepts) (ended : session.build = build)
    (kept : (Ledger.addAll [] (pipeline.language.renderAll offered)).Kept inner.noting (start, [])
      session.state) : session.Ends pipeline.language build offered where
  build := ended
  wrote := by
    intro key source
    rw [wrote_iff accepts kept, Ledger.find_addAll]
    rfl

variable {ledger : Ledger} {state : WriteOnce σ} {build : BuildState} {table : SymbolTable}

theorem kept_runRound (accepts : inner.Accepts) (kept : ledger.Kept inner start state) :
    (ledger.addAll (pipeline.language.renderAll (pipeline.roundOffer table build))).Kept inner start
      (pipeline.runRound (.writeOnce inner) build table state).2 := by
  rw [runRound_offer]
  exact pipeline.language.kept_emit accepts kept _

theorem kept_finish (accepts : inner.Accepts) (kept : ledger.Kept inner start state) :
    (ledger.addAll (pipeline.language.renderAll (pipeline.finishOffer build))).Kept inner start
      (pipeline.finish (.writeOnce inner) build state).2 := by
  rw [finish_offer]
  exact pipeline.language.kept_emit accepts kept _

/-- The first round of a build takes over all that it found, unless two interceptors clash. -/
theorem runRound_first (named : pipeline.options.moduleName = some module)
    (accepts : inner.Accepts) (sound : (table.stagedHooks .empty).fatal = none) :
    (pipeline.runRound (.writeOnce inner) {} table ⟨start, []⟩).1.state = table.staged {} :=
  runRound_fresh named accepts (.empty inner start) RouteTable.wellFormed_empty sound
    (fun _ _ => rfl) fun _ _ => rfl

/-- A round over declarations that are neither routes nor interceptors offers injectors alone. -/
theorem roundOffer_of_plain (plain : ∀ decl ∈ table.declarations, decl.marks = {})
    (build : BuildState) :
    pipeline.roundOffer table build = injectorOffer table ∧ table.staged build = build ∧
      (table.stagedHooks build.hooks).fatal = none := by
  have routes : table.routes = [] := by
    refine List.filter_eq_nil_iff.mpr fun decl member => ?_
    rw [plain decl member]
    exact Bool.false_ne_true
  have hooks : table.hooks = [] := by
    refine List.filter_eq_nil_iff.mpr fun decl member => ?_
    rw [plain decl member]
    exact Bool.false_ne_true
  simp only [roundOffer, routeOffer, hookOffer, SymbolTable.staged, SymbolTable.stagedRoutes,
    SymbolTable.stagedHooks, routes, hooks]
  exact ⟨rfl, rfl, rfl⟩

/-- A build of one delivery ends with what its round found. -/
theorem ends_single (named : pipeline.options.moduleName = some module) (accepts : inner.Accepts)
    {snapshot : List Declaration} {whole : SymbolTable}
    (delivered : SymbolTable.ofList snapshot = whole)
    (sound : (whole.stagedHooks .empty).fatal = none) :
    (pipeline.buildAll (.writeOnce inner.noting) ⟨(start, []), []⟩ [snapshot]).Ends
      pipeline.language (whole.staged {})
      (pipeline.roundOffer whole {} ++ pipeline.finishOffer (whole.staged {})) := by
  have noting := Sink.accepts_noting accepts
  let run := pipeline.buildAll (.writeOnce inner.noting) ⟨(start, []), []⟩ [snapshot]
  let one := pipeline.runRound (.writeOnce inner.noting) {} whole ⟨(start, []), []⟩
  have unfolded : run.build = one.1.state ∧
      run.state = (pipeline.finish (.writeOnce inner.noting) one.1.state one.2).2 := by
    simp only [one]
    rw [← delivered]
    exact ⟨rfl, rfl⟩
  rw [show one.1.state = whole.staged {} from runRound_first named noting sound] at unfolded
  have kept : (Ledger.addAll [] (pipeline.language.renderAll
      (pipeline.roundOffer whole {} ++ pipeline.finishOffer (whole.staged {})))).Kept inner.noting
        (start, []) run.state := by
    rw [unfolded.2, Language.renderAll_append, Ledger.addAll_append]
    exact kept_finish noting (kept_runRound noting (.empty inner.noting (start, [])))
  exact ends_of_kept accepts unfolded.1 kept

/-- A build of two deliveries ends with what its rounds found, if the second takes it over. -/
theorem ends_pair (named : pipeline.options.moduleName = some module) (accepts : inner.Accepts)
    {snapshot later : List Declaration} {first second : SymbolTable}
    (delivered : SymbolTable.ofList snapshot = first)
    (redelivered : (pipeline.deliver (.writeOnce inner.noting) { state := ⟨(start, []), []⟩ }
      snapshot).2.carry.table later = second)
    (sound : (first.stagedHooks .empty).fatal = none)
    (takes : (pipeline.runRound (.writeOnce inner.noting) (first.staged {}) second
      (pipeline.runRound (.writeOnce inner.noting) {} first ⟨(start, []), []⟩).2).1.state =
        second.staged (first.staged {})) :
    (pipeline.buildAll (.writeOnce inner.noting) ⟨(start, []), []⟩ [snapshot, later]).Ends
      pipeline.language (second.staged (first.staged {}))
      (pipeline.roundOffer first {} ++ pipeline.roundOffer second (first.staged {}) ++
        pipeline.finishOffer (second.staged (first.staged {}))) := by
  have noting := Sink.accepts_noting accepts
  let run := pipeline.buildAll (.writeOnce inner.noting) ⟨(start, []), []⟩ [snapshot, later]
  let one := pipeline.runRound (.writeOnce inner.noting) {} first ⟨(start, []), []⟩
  let two := pipeline.runRound (.writeOnce inner.noting) (first.staged {}) second one.2
  have taken : one.1.state = first.staged {} := runRound_first named noting sound
  have unfolded : run.build = two.1.state ∧
      run.state = (pipeline.finish (.writeOnce inner.noting) two.1.state two.2).2 := by
    simp only [two]
    rw [← taken]
    simp only [one]
    rw [← redelivered, ← delivered]
    exact ⟨rfl, rfl⟩
  rw [show two.1.state = second.staged (first.staged {}) from takes] at unfolded
  have kept : (Ledger.addAll [] (pipeline.language.renderAll
      (pipeline.roundOffer first {} ++ pipeline.roundOffer second (first.staged {}) ++
        pipeline.finishOffer (second.staged (first.staged {}))))).Kept inner.noting
          (start, []) run.state := by
    rw [unfolded.2, Language.renderAll_append, Ledger.addAll_append, Language.renderAll_append,
      Ledger.addAll_append]
    exact kept_finish noting
      (kept_runRound noting (kept_runRound noting (.empty inner.noting (start, []))))
  exact ends_of_kept accepts unfolded.1 kept

end Pipeline

namespace SymbolTable.Split

variable {σ : Type} {pipeline : Pipeline} {inner : Sink σ} {start : σ} {module : String}
  {others : List Declaration} {late : Declaration} {whole first second : SymbolTable}
  (split : Split others late whole first second)
include split

/-- The second round takes over all that it found, unless two interceptors clash. -/
theorem runRound_second (named : pipeline.options.moduleName = some module)
    (accepts : inner.Accepts)
    (sound : (second.stagedHooks (first.stagedHooks .empty).table).fatal = none) :
    (pipeline.runRound (.writeOnce inner) (first.staged {}) second
      (pipeline.runRound (.writeOnce inner) {} first ⟨start, []⟩).2).1.state =
        second.staged (first.staged {}) := by
  have empty : RouteTable.empty.WellFormed := RouteTable.wellFormed_empty
  have staged : (first.stagedRoutes .empty).WellFormed :=
    RouteTable.wellFormed_insertAll empty _
  have after : (Ledger.addAll []
      (pipeline.language.renderAll (pipeline.roundOffer first {}))).Kept inner start
        (pipeline.runRound (.writeOnce inner) {} first ⟨start, []⟩).2 :=
    Pipeline.kept_runRound accepts (.empty inner start)
  refine Pipeline.runRound_fresh named accepts after staged sound ?_ ?_
  · intro unit member
    have isRoute := Pipeline.isRouteKey_of_mem_routeOffer named staged member
    have once : pipeline.routeOffer first .empty = [] :=
      (split.routeOffer_once pipeline _ _).resolve_right (List.ne_nil_of_mem member)
    rw [Ledger.find_addAll, Pipeline.roundOffer, once, List.nil_append, Language.renderAll_append,
      Ledger.find_append, Pipeline.find_hookOffer_eq_none named (isRoute.ne_interceptors module),
      Pipeline.find_injectorOffer_eq_none (.inl isRoute)]
    rfl
  · intro unit member
    have key := Pipeline.key_of_mem_hookOffer named member
    have once : pipeline.hookOffer first .empty = [] :=
      (split.hookOffer_once pipeline _ _).resolve_right (List.ne_nil_of_mem member)
    have other : ¬IsRouteKey module unit.key := by
      rw [key]
      exact fun isRoute => isRoute.ne_interceptors module rfl
    rw [Ledger.find_addAll, Pipeline.roundOffer, once, List.append_nil, Language.renderAll_append,
      Ledger.find_append, Pipeline.find_routeOffer_eq_none named empty other,
      Pipeline.find_injectorOffer_eq_none (.inr key)]
    rfl

variable (alike : Alike second whole late)
  (routes : ((whole.acceptedRoutes whole.routes).map RouteRecord.address).Nodup)
  (hooks : ((whole.acceptedHooks whole.hooks).map HookRecord.priority).Nodup)
include alike routes hooks

/-- Both rounds together lead to what the whole round leads to. -/
theorem staged_eq : second.staged (first.staged {}) = whole.staged {} := by
  obtain ⟨-, -, -, taken⟩ := split.stagedHooks_eq alike hooks
  exact congrArg₂ BuildState.mk (split.stagedRoutes_eq alike routes) taken

/-- Both rounds let the same units through as the whole round, as far as they are tables or the
    injector of the late class stands apart. -/
theorem find_offers (named : pipeline.options.moduleName = some module) {key : UnitKey}
    (settled : IsTableKey module key ∨ InjectorApart others late) :
    Ledger.find (pipeline.language.renderAll (pipeline.roundOffer first {} ++
        pipeline.roundOffer second (first.staged {}) ++ pipeline.finishOffer (whole.staged {})))
      key =
    Ledger.find (pipeline.language.renderAll (pipeline.roundOffer whole {} ++
        pipeline.finishOffer (whole.staged {}))) key := by
  have empty : RouteTable.empty.WellFormed := RouteTable.wellFormed_empty
  have staged : (first.stagedRoutes .empty).WellFormed :=
    RouteTable.wellFormed_insertAll empty _
  have routeParts := congrArg (fun units => Ledger.find (pipeline.language.renderAll units) key)
    (split.routeOffer_eq pipeline alike routes)
  have hookParts := congrArg (fun units => Ledger.find (pipeline.language.renderAll units) key)
    (split.hookOffer_eq pipeline alike hooks)
  simp only [Language.renderAll_append, Ledger.find_append] at routeParts hookParts
  simp only [Pipeline.roundOffer, SymbolTable.staged, Language.renderAll_append,
    Ledger.find_append]
  -- Tables of routes, the table of interceptors and injectors bear different names, so a name is
  -- looked for in one of the three parts of each offer.
  by_cases isTable : IsTableKey module key
  · simp only [Pipeline.find_injectorOffer_eq_none isTable, Option.or_none]
    by_cases isRoute : IsRouteKey module key
    · have other : key ≠ .interceptors module := isRoute.ne_interceptors module
      simp only [Pipeline.find_hookOffer_eq_none named other, Option.or_none, routeParts]
    · simp only [Pipeline.find_routeOffer_eq_none named empty isRoute,
        Pipeline.find_routeOffer_eq_none named staged isRoute, Option.none_or, hookParts]
  · have isRoute : ¬IsRouteKey module key := fun isRoute => isTable (.inl isRoute)
    have other : key ≠ .interceptors module := fun same => isTable (.inr same)
    have injectorParts := split.find_injectors alike pipeline.language
      (settled.resolve_left isTable) key
    rw [Language.renderAll_append, Ledger.find_append] at injectorParts
    simp only [Pipeline.find_routeOffer_eq_none named empty isRoute,
      Pipeline.find_routeOffer_eq_none named staged isRoute,
      Pipeline.find_hookOffer_eq_none named other, Option.none_or, injectorParts]

end SymbolTable.Split

end RouteAtlas
