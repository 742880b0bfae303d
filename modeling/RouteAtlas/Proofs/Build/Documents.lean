import RouteAtlas.Proofs.Build.Repeat
import RouteAtlas.Proofs.Round.Siblings

/-! # What a route document describes

A round hands out a route document only if all tables of the documented routes were emitted. The end
of a build hands it out in any case, so that there it describes tables that are in the sink exactly
if none of them failed.
-/

namespace RouteAtlas

/-- Units can be rendered, and the sink refuses none of them when they are written one after
    another. -/
def Language.Delivers {σ : Type} (language : Language) (sink : Sink σ) :
    σ → List GeneratedUnit → Prop
  | _, [] => True
  | state, unit :: rest => ∃ rendered status, language.render unit = .ok rendered ∧
      (sink.write state rendered).1 = .ok status ∧
      language.Delivers sink (sink.write state rendered).2 rest

theorem Language.isClean_iff_delivers {σ : Type} {language : Language} {sink : Sink σ} {state : σ}
    {units : List GeneratedUnit} :
    (language.emit sink state units).report.isClean = true ↔ language.Delivers sink state units := by
  induction units generalizing state with
  | nil => exact iff_of_true rfl trivial
  | cons unit rest ih =>
      rw [isClean_emit_cons, Delivers]
      cases made : language.render unit with
      | error => simp [emitUnit_of_error _ made]
      | ok rendered => simp [emitUnit_of_ok _ made, ih]

theorem Language.Delivers.rendered {σ : Type} {language : Language} {sink : Sink σ} {state : σ}
    {units : List GeneratedUnit} (delivers : language.Delivers sink state units)
    {unit : GeneratedUnit} (member : unit ∈ units) :
    ∃ rendered, language.render unit = .ok rendered := by
  induction units generalizing state with
  | nil => cases member
  | cons first rest ih =>
      obtain ⟨rendered, status, made, -, others⟩ := delivers
      cases member with
      | head => exact ⟨rendered, made⟩
      | tail _ later => exact ih others later

section Paths

variable {language : Language} {unit other : RenderedUnit}

/-- A unit that some processor has made and that lies where its name says. -/
structure Language.Placed (language : Language) (unit : RenderedUnit) : Prop where
  path : unit.path = unit.key.path language.extension
  owned : ∃ processor : Processor, processor.Owns unit.key

/-- A unit that lies where a table of routes does goes by the name of the table. -/
theorem Language.Placed.key_eq (placed : language.Placed unit) (otherPlaced : language.Placed other)
    (isRoute : Processor.route.Owns unit.key) (same : other.path = unit.path) :
    other.key = unit.key := by
  obtain ⟨processor, owns⟩ := otherPlaced.owned
  rw [placed.path, otherPlaced.path] at same
  by_cases route : processor = .route
  · subst route
    obtain ⟨module, own⟩ := isRoute
    obtain ⟨otherModule, otherOwn⟩ := owns
    exact UnitKey.path_injective (otherOwn.package_eq.trans own.package_eq.symm) same
  · exact absurd same (Processor.path_ne owns isRoute route language)

theorem Language.placed_of_render {offered : GeneratedUnit}
    (owned : ∃ processor : Processor, processor.Owns offered.key)
    (made : language.render offered = .ok unit) : language.Placed unit := by
  obtain ⟨key, path, -⟩ := render_eq_ok made
  exact ⟨by rw [path, key], by rwa [key]⟩

end Paths

/-- A unit that no other unit of its path follows is in the memory in the end. -/
theorem Sink.get?_writeAll_of_alone {store : Store} {unit : RenderedUnit} {units : List RenderedUnit}
    (alone : ∀ other ∈ units, other.path = unit.path → other = unit)
    (member : unit ∈ units ∨ store.get? unit.path = some unit) :
    (memory.writeAll store units).get? unit.path = some unit := by
  induction units generalizing store with
  | nil => exact member.resolve_left List.not_mem_nil
  | cons first rest ih =>
      apply ih fun other later => alone other (List.mem_cons_of_mem _ later)
      by_cases here : first.path = unit.path
      · rw [alone first List.mem_cons_self here]
        exact .inr (SortedMap.get?_insert_self ..)
      · have other : first ≠ unit := fun same => here (congrArg RenderedUnit.path same)
        simp [Sink.memory, SortedMap.get?_insert, Ne.symm here]
        simpa [Ne.symm other] using member

namespace Pipeline

/-- The builds, and the states of a sink, that rounds and ends of builds lead to. -/
inductive Reaches {σ : Type} (pipeline : Pipeline) (sink : Sink σ) (start : σ) :
    BuildState → σ → Prop where
  | start : Reaches pipeline sink start {} start
  | round {build state} (table : SymbolTable) (reaches : Reaches pipeline sink start build state) :
    Reaches pipeline sink start (pipeline.runRound sink build table state).1.state
      (pipeline.runRound sink build table state).2
  | finish {build state} (reaches : Reaches pipeline sink start build state) :
    Reaches pipeline sink start (pipeline.finish sink build state).1.state
      (pipeline.finish sink build state).2

variable {σ : Type} {pipeline : Pipeline} {sink : Sink σ} {start state : σ} {build : BuildState}
  {table : SymbolTable} {unit : GeneratedUnit}

theorem Reaches.reachable (reaches : pipeline.Reaches sink start build state) : build.Reachable := by
  induction reaches with
  | start => exact .start
  | round table _ ih => exact ih.runRound _ _ table _
  | finish _ ih => exact ih

theorem owned_roundOffer (routes : build.routes.WellFormed)
    (member : unit ∈ pipeline.roundOffer table build) :
    ∃ processor : Processor, processor.Owns unit.key := by
  rw [roundOffer, List.mem_append, List.mem_append] at member
  rcases member with (ofRoutes | ofHooks) | ofInjectors
  · exact ⟨_, owns_routeOffer routes ofRoutes⟩
  · exact ⟨_, owns_hookOffer ofHooks⟩
  · exact ⟨_, owns_injectorOffer ofInjectors⟩

theorem owned_finishOffer (routes : build.routes.WellFormed)
    (member : unit ∈ pipeline.finishOffer build) :
    ∃ processor : Processor, processor.Owns unit.key := by
  obtain ⟨module, listed | rfl⟩ := mem_finishOffer member
  · exact ⟨.route, module, routes.isRouteKey listed⟩
  · exact ⟨.interceptor, module, rfl⟩

/-- A write-once sink has let through units of processors only, whatever rounds it was used in. -/
theorem Reaches.kept {state : WriteOnce Store}
    (reaches : pipeline.Reaches (.writeOnce .memory) ⟨.empty, []⟩ build state) :
    ∃ ledger : Ledger, ledger.Kept .memory .empty state ∧
      ∀ unit ∈ ledger, pipeline.language.Placed unit := by
  have later : ∀ {ledger : Ledger} {state : WriteOnce Store} (units : List GeneratedUnit),
      (∀ unit ∈ units, ∃ processor : Processor, processor.Owns unit.key) →
      ledger.Kept .memory .empty state → (∀ unit ∈ ledger, pipeline.language.Placed unit) →
      ∃ ledger : Ledger, ledger.Kept .memory .empty
          (pipeline.language.emit (.writeOnce .memory) state units).state ∧
        ∀ unit ∈ ledger, pipeline.language.Placed unit := by
    intro ledger state units owned kept placed
    refine ⟨_, pipeline.language.kept_emit Sink.accepts_memory kept units, fun unit member => ?_⟩
    rcases Ledger.mem_of_mem_addAll member with before | offered
    · exact placed unit before
    · obtain ⟨source, listed, made⟩ := pipeline.language.mem_renderAll.mp offered
      exact Language.placed_of_render (owned source listed) made
  induction reaches with
  | start => exact ⟨[], .empty .memory .empty, fun _ member => absurd member List.not_mem_nil⟩
  | round table before ih =>
      obtain ⟨ledger, kept, placed⟩ := ih
      rw [runRound_offer]
      exact later _ (fun _ => owned_roundOffer before.reachable.wellFormed_routes) kept placed
  | finish before ih =>
      obtain ⟨ledger, kept, placed⟩ := ih
      rw [finish_offer]
      exact later _ (fun _ => owned_finishOffer before.reachable.wellFormed_routes) kept placed

section Stored

variable {routes others : List GeneratedUnit}
  (own : ∀ unit ∈ routes, Processor.route.Owns unit.key)
  (foreign : ∀ unit ∈ others, ∃ processor : Processor, processor ≠ .route ∧ processor.Owns unit.key)
include own foreign

/-- The tables of routes stay in a memory, whatever other processors write after them. -/
theorem stored_memory {language : Language} {store : Store}
    (distinct : (routes.map GeneratedUnit.key).Nodup)
    (clean : (language.emit .memory store routes).report.isClean = true)
    (member : unit ∈ routes) : ∃ rendered, language.render unit = .ok rendered ∧
      (language.emit .memory store (routes ++ others)).state.get? rendered.path =
        some rendered := by
  obtain ⟨rendered, made⟩ := (Language.isClean_iff_delivers.mp clean).rendered member
  obtain ⟨key, path, -⟩ := Language.render_eq_ok made
  refine ⟨rendered, made, ?_⟩
  rw [Language.state_emit]
  apply Sink.get?_writeAll_of_alone
  · intro other otherIn same
    obtain ⟨source, listed, done⟩ := language.mem_renderAll.mp otherIn
    rw [path, (Language.render_eq_ok done).2.1] at same
    rcases List.mem_append.mp listed with ofRoutes | ofOthers
    · obtain ⟨module, isRoute⟩ := own unit member
      obtain ⟨otherModule, otherRoute⟩ := own source ofRoutes
      have keys := UnitKey.path_injective
        (otherRoute.package_eq.trans isRoute.package_eq.symm) same
      rw [List.inj_on_of_nodup_map distinct ofRoutes member keys, made] at done
      exact (Except.ok.inj done).symm
    · obtain ⟨processor, apart, owns⟩ := foreign source ofOthers
      exact absurd same (Processor.path_ne owns (own unit member) apart language)
  · exact .inl (language.mem_renderAll.mpr ⟨unit, List.mem_append_left _ member, made⟩)

/-- What a write-once sink holds of tables that were emitted has their content. -/
theorem stored_writeOnce {language : Language} {state : WriteOnce Store} {ledger : Ledger}
    (kept : ledger.Kept .memory .empty state) (placed : ∀ unit ∈ ledger, language.Placed unit)
    (clean : (language.emit (.writeOnce .memory) state routes).report.isClean = true)
    (member : unit ∈ routes) : ∃ rendered, language.render unit = .ok rendered ∧
      ∃ known, (language.emit (.writeOnce .memory) state (routes ++ others)).state.inner.get?
          rendered.path = some known ∧ known.key = rendered.key ∧
        Text.Digest.ofText known.source = Text.Digest.ofText rendered.source := by
  obtain ⟨rendered, made, known, found, same⟩ :=
    language.rendered_of_clean Sink.accepts_memory kept clean member
  have after := language.kept_emit Sink.accepts_memory kept (routes ++ others)
  have held : (ledger.addAll (language.renderAll (routes ++ others))).find rendered.key =
      some known := by
    rw [Language.renderAll_append, Ledger.addAll_append]
    exact Ledger.find_addAll_of_find found
  have allPlaced : ∀ other ∈ ledger.addAll (language.renderAll (routes ++ others)),
      language.Placed other := by
    intro other otherIn
    rcases Ledger.mem_of_mem_addAll otherIn with before | offered
    · exact placed other before
    · obtain ⟨source, listed, done⟩ := language.mem_renderAll.mp offered
      refine Language.placed_of_render ?_ done
      rcases List.mem_append.mp listed with ofRoutes | ofOthers
      · exact ⟨_, own source ofRoutes⟩
      · exact (foreign source ofOthers).imp fun _ owned => owned.2
  have knownIn := Ledger.mem_of_find held
  have key := Ledger.key_of_find held
  have isRoute : Processor.route.Owns known.key := by
    rw [key, (Language.render_eq_ok made).1]
    exact own unit member
  have path : rendered.path = known.path := by
    rw [(allPlaced known knownIn).path, key, (Language.render_eq_ok made).1,
      (Language.render_eq_ok made).2.1]
  refine ⟨rendered, made, known, ?_, key, same⟩
  rw [after.below, path]
  refine Sink.get?_writeAll_of_alone (fun other otherIn paths => ?_) (.inl knownIn)
  exact List.inj_on_of_nodup_map after.distinct otherIn knownIn
    ((allPlaced known knownIn).key_eq (allPlaced other otherIn) isRoute paths)

end Stored

section Docs

variable {module : String} {doc : RenderedUnit}

/-- A round that hands out a document has emitted the tables of all routes. -/
theorem clean_of_docs_runRoutes {routes : RouteTable}
    (handed : (pipeline.runRoutes sink table routes state).docs = some doc) :
    ∃ module, pipeline.options.moduleName = some module ∧ pipeline.options.docs = true ∧
      doc = (table.stagedRoutes routes).document module ∧
      pipeline.routeOffer table routes = (table.stagedRoutes routes).units module ∧
      (pipeline.runRoutes sink table routes state).routes = table.stagedRoutes routes ∧
      (pipeline.runRoutes sink table routes state).report.fatal = none ∧
      (pipeline.runRoutes sink table routes state).report.emitted.isClean = true := by
  rw [docs_runRoutes] at handed
  split at handed
  · cases handed
  · rename_i work
    obtain ⟨⟨found, settled⟩, clean⟩ : ((resolvedOnes table.routes).isEmpty = false ∧
        (pendingOnes table.routes).isEmpty = true) ∧
          (pipeline.runRoutes sink table routes state).report.emitted.isClean = true := by
      simpa using work
    obtain ⟨module, named, document⟩ := Option.bind_eq_some_iff.mp handed
    obtain ⟨asked, rfl⟩ : pipeline.options.docs = true ∧
        (table.stagedRoutes routes).document module = doc := by
      simpa [document?] using document
    refine ⟨module, named, asked, rfl, ?_, routes_of_clean named routes clean, ?_, clean⟩
    · simp [routeOffer, found, settled, named]
    · rw [fatal_runRoutes, named]
      simp

theorem docs_flushRoutes (routes : RouteTable) :
    (pipeline.flushRoutes sink routes state).docs = some doc ↔
      routes.isEmpty = false ∧ pipeline.options.docs = true ∧
        ∃ module, pipeline.options.moduleName = some module ∧ routes.document module = doc := by
  unfold flushRoutes BuildOptions.requireModuleName
  cases routes.isEmpty <;> cases pipeline.options.moduleName <;> simp [document?]

end Docs

end Pipeline

/-- An outcome hands out the document of its routes, over which its processor has not given up. -/
structure Documented (pipeline : Pipeline) (outcome : RoundOutcome) (doc : RenderedUnit)
    (module : String) (report : Report) : Prop where
  named : pipeline.options.moduleName = some module
  asked : pipeline.options.docs = true
  document : outcome.state.routes.document module = doc
  reported : outcome.reportOf? .route = some report
  sound : report.fatal = none

/-- What the route documents of a build describe, where `holds` says whether a sink has a unit. -/
structure DocsLaw {σ : Type} (pipeline : Pipeline) (sink : Sink σ)
    (holds : σ → RenderedUnit → Prop) (build : BuildState) (state : σ) : Prop where
  /-- In a round they describe tables that were emitted. -/
  round : ∀ table doc, (pipeline.runRound sink build table state).1.docs = some doc →
    let round := pipeline.runRound sink build table state
    ∃ module report, Documented pipeline round.1 doc module report ∧ report.emitted.failed = [] ∧
      pipeline.language.Delivers sink state (round.1.state.routes.units module) ∧
      ∀ unit ∈ round.1.state.routes.units module, ∃ rendered,
        pipeline.language.render unit = .ok rendered ∧ holds round.2 rendered
  /-- At the end they do so if no table failed. -/
  finish : ∀ doc, (pipeline.finish sink build state).1.docs = some doc →
    let last := pipeline.finish sink build state
    ∃ module report, Documented pipeline last.1 doc module report ∧
      (report.emitted.failed = [] ↔
        pipeline.language.Delivers sink state (build.routes.units module)) ∧
      (report.emitted.failed = [] → ∀ unit ∈ build.routes.units module, ∃ rendered,
        pipeline.language.render unit = .ok rendered ∧ holds last.2 rendered)
  /-- There they are handed out whenever there are routes. -/
  always : (pipeline.finish sink build state).1.docs.isSome ↔ pipeline.options.docs = true ∧
    pipeline.options.moduleName.isSome ∧ build.routes.isEmpty = false

section Law

variable {σ : Type} {pipeline : Pipeline} {sink : Sink σ} {start state : σ} {build : BuildState}
  {holds : σ → RenderedUnit → Prop}

/-- What is emitted in a round after the tables of routes belongs to the other processors. -/
theorem owned_after_routes {table : SymbolTable} {hooks : HookTable} {unit : GeneratedUnit}
    (member : unit ∈ pipeline.hookOffer table hooks ++ Pipeline.injectorOffer table) :
    ∃ processor : Processor, processor ≠ .route ∧ processor.Owns unit.key := by
  rcases List.mem_append.mp member with ofHooks | ofInjectors
  · exact ⟨.interceptor, by decide, Pipeline.owns_hookOffer ofHooks⟩
  · exact ⟨.autowired, by decide, Pipeline.owns_injectorOffer ofInjectors⟩

/-- The same of what is emitted at the end. -/
theorem owned_after_flush {module : String} {hooks : HookTable} {unit : GeneratedUnit}
    (named : pipeline.options.moduleName = some module)
    (member : unit ∈ pipeline.hookFlush hooks) :
    ∃ processor : Processor, processor ≠ .route ∧ processor.Owns unit.key := by
  rw [Pipeline.hookFlush_eq named] at member
  split at member
  · cases member
  · rw [List.mem_singleton.mp member]
    exact ⟨.interceptor, by decide, module, rfl⟩

/-- A sink that has the tables of routes once they are emitted has those that are documented. -/
theorem docsLaw_of_holds (wellFormed : build.routes.WellFormed)
    (stored : ∀ {routes others : List GeneratedUnit}, (routes.map GeneratedUnit.key).Nodup →
      (∀ unit ∈ routes, Processor.route.Owns unit.key) →
      (∀ unit ∈ others, ∃ processor : Processor, processor ≠ .route ∧ processor.Owns unit.key) →
      (pipeline.language.emit sink state routes).report.isClean = true →
      ∀ unit ∈ routes, ∃ rendered, pipeline.language.render unit = .ok rendered ∧
        holds (pipeline.language.emit sink state (routes ++ others)).state rendered) :
    DocsLaw pipeline sink holds build state := by
  constructor
  case round =>
    intro table doc handed
    obtain ⟨module, named, asked, rfl, offer, routes, sound, clean⟩ :=
      Pipeline.clean_of_docs_runRoutes handed
    have taken : (pipeline.runRound sink build table state).1.state.routes =
        table.stagedRoutes build.routes := routes
    have emitted := clean
    rw [(Pipeline.runRoutes_offer _).2, offer] at emitted
    refine ⟨module, _, ⟨named, asked, ?_, Pipeline.reportOf?_route, sound⟩, ?_, ?_, ?_⟩
    · rw [taken]
    · exact List.isEmpty_iff.mp clean
    · rw [taken]
      exact Language.isClean_iff_delivers.mp emitted
    · have formed : (table.stagedRoutes build.routes).WellFormed :=
        RouteTable.wellFormed_insertAll wellFormed _
      rw [taken, Pipeline.runRound_offer, Pipeline.roundOffer, List.append_assoc, offer]
      exact stored (RouteTable.nodup_keys_units module _)
        (fun _ listed => ⟨module, formed.isRouteKey listed⟩) (fun _ => owned_after_routes) emitted
  case finish =>
    intro doc handed
    obtain ⟨filled, asked, module, named, document⟩ :=
      (Pipeline.docs_flushRoutes build.routes).mp handed
    have offer : pipeline.routeFlush build.routes = build.routes.units module := by
      rw [Pipeline.routeFlush_eq named, filled]
      rfl
    have report : (pipeline.flushRoutes sink build.routes state).report = _ :=
      Pipeline.report_flushRoutes build.routes
    rw [offer] at report
    have delivers : (pipeline.language.emit sink state (build.routes.units module)).report.isClean =
        true ↔ _ := Language.isClean_iff_delivers
    rw [EmitReport.isClean, List.isEmpty_iff] at delivers
    refine ⟨module, (pipeline.flushRoutes sink build.routes state).report,
      ⟨named, asked, document, ?_, ?_⟩, ?_, ?_⟩
    · simp [RoundOutcome.reportOf?, Pipeline.finish, report]
    · simp [report, named]
    · rw [report]
      exact delivers
    · intro none
      rw [report] at none
      rw [Pipeline.finish_offer, Pipeline.finishOffer, offer]
      exact stored (RouteTable.nodup_keys_units module _)
        (fun _ listed => ⟨module, wellFormed.isRouteKey listed⟩)
        (fun _ => owned_after_flush named) (List.isEmpty_iff.mpr none)
  case always =>
    have handed : (pipeline.finish sink build state).1.docs =
        (pipeline.flushRoutes sink build.routes state).docs := rfl
    simp only [handed, Option.isSome_iff_exists, Pipeline.docs_flushRoutes]
    grind

/-- Of a sink of which nothing is known it can be said what it has refused. -/
theorem docsLaw_of_reachable (reachable : build.Reachable) (state : σ) :
    DocsLaw pipeline sink (fun _ _ => True) build state := by
  apply docsLaw_of_holds reachable.wellFormed_routes
  intro routes others _ _ _ clean unit member
  obtain ⟨rendered, made⟩ := (Language.isClean_iff_delivers.mp clean).rendered member
  exact ⟨rendered, made, trivial⟩

end Law

/-- Under the name of a unit, at its path, a write-once sink has let through its content. -/
def WriteOnce.Has (state : WriteOnce Store) (unit : RenderedUnit) : Prop :=
  ∃ known, state.inner.get? unit.path = some known ∧ known.key = unit.key ∧
    Text.Digest.ofText known.source = Text.Digest.ofText unit.source

/-- Whatever sink a build has used, a document of a round describes tables that were emitted, and
    that of the end does so if the tables of the routes did not fail there. -/
theorem docsLaw_of_reaches (pipeline : Pipeline) :
    (∀ {σ : Type} {sink : Sink σ} {start build state},
      pipeline.Reaches sink start build state →
        DocsLaw pipeline sink (fun _ _ => True) build state) ∧
    (∀ {start build state}, pipeline.Reaches .memory start build state →
      DocsLaw pipeline .memory (fun store unit => store.get? unit.path = some unit) build state) ∧
    ∀ {build state}, pipeline.Reaches (.writeOnce .memory) ⟨.empty, []⟩ build state →
      DocsLaw pipeline (.writeOnce .memory) WriteOnce.Has build state := by
  refine ⟨fun reaches => docsLaw_of_reachable reaches.reachable _, ?_, ?_⟩
  · intro start build state reaches
    apply docsLaw_of_holds reaches.reachable.wellFormed_routes
    intro routes others distinct own foreign clean unit member
    exact Pipeline.stored_memory own foreign distinct clean member
  · intro build state reaches
    apply docsLaw_of_holds reaches.reachable.wellFormed_routes
    intro routes others _ own foreign clean unit member
    obtain ⟨ledger, kept, placed⟩ := reaches.kept
    exact Pipeline.stored_writeOnce own foreign kept placed clean member

section Refused

private def documenting : Pipeline :=
  { options := { moduleName := some "app", docs := true } }

private def atlasPage : Declaration :=
  { qualifiedName := "app.Atlas"
    supertypes := [.named Contract.activity]
    marks := { route := some { path := "/main/atlas" } } }

/-- A page beside one that is put off. -/
private def unfinished : SymbolTable :=
  .ofList [atlasPage, { qualifiedName := "app.Late", resolved := false
                        marks := { route := some { path := "/main/late" } } }]

private theorem isEmpty_unfinished : (unfinished.stagedRoutes .empty).isEmpty = false := by
  have found : resolvedOnes unfinished.routes = [atlasPage] := by decide +kernel
  have kind : unfinished.routeKind atlasPage = .screen := by
    rw [SymbolTable.routeKind, SymbolTable.firstMatch_of_unknown rfl (by decide) rfl]
    decide
  have extracted : unfinished.extractRoute atlasPage =
      .ok { path := "/main/atlas", kind := .screen, target := .named "app.Atlas" } := by
    rw [SymbolTable.extractRoute, kind]
    rfl
  rw [SymbolTable.stagedRoutes, found]
  simp only [SymbolTable.extractRoutes, List.filterMap_cons, extracted, Except.toOption,
    List.filterMap_nil]
  decide

private theorem routes_unfinished {σ : Type} (sink : Sink σ) (state : σ) :
    (documenting.runRound sink {} unfinished state).1.state.routes.isEmpty = false := by
  have offer : documenting.routeOffer unfinished .empty = [] := by
    simp [Pipeline.routeOffer, show (pendingOnes unfinished.routes).isEmpty = false by decide +kernel]
  have clean : (documenting.runRoutes sink unfinished .empty state).report.emitted.isClean := by
    rw [(Pipeline.runRoutes_offer _).2, offer]
    rfl
  change (Pipeline.runRoutes _ _ _ _ _).routes.isEmpty = false
  rw [Pipeline.routes_of_clean rfl _ clean]
  exact isEmpty_unfinished

/-- What was held back in a round is documented at the end, and in the sink. -/
theorem docsLaw_of_unfinished :
    let round := documenting.runRound (.writeOnce .memory) {} unfinished ⟨.empty, []⟩
    documenting.Reaches (.writeOnce .memory) ⟨.empty, []⟩ round.1.state round.2 ∧
      DocsLaw documenting (.writeOnce .memory) WriteOnce.Has round.1.state round.2 ∧
      (documenting.finish (.writeOnce .memory) round.1.state round.2).1.docs.isSome := by
  intro round
  have reaches : documenting.Reaches (.writeOnce .memory) ⟨.empty, []⟩ round.1.state round.2 :=
    .round unfinished .start
  have law := (docsLaw_of_reaches documenting).2.2 reaches
  exact ⟨reaches, law, law.always.mpr ⟨rfl, rfl, routes_unfinished _ _⟩⟩

private def full : Sink Store :=
  .refusing (fun _ => some "disk full") .memory

/-- At the end of a build over a full disk no table is written, but all of them are documented. -/
theorem docs_of_full :
    let round := documenting.runRound full {} unfinished .empty
    let last := documenting.finish full round.1.state round.2
    documenting.Reaches full .empty round.1.state round.2 ∧
      (∃ doc, last.1.docs = some doc) ∧
      (∃ report, last.1.reportOf? .route = some report ∧ report.emitted.failed ≠ []) ∧
      last.2 = .empty := by
  intro round last
  have reaches : documenting.Reaches full .empty round.1.state round.2 := .round unfinished .start
  have routes := routes_unfinished full .empty
  have stays : ∀ units, full.writeAll .empty units = .empty := by
    intro units
    induction units with
    | nil => rfl
    | cons unit rest ih => exact ih
  have before : round.2 = .empty := by rw [Pipeline.runRound_offer, Language.state_emit, stays]
  have law : DocsLaw documenting full (fun _ _ => True) round.1.state round.2 :=
    docsLaw_of_reachable reaches.reachable round.2
  obtain ⟨doc, handed⟩ := Option.isSome_iff_exists.mp (law.always.mpr ⟨rfl, rfl, routes⟩)
  obtain ⟨module, report, documented, delivers, -⟩ := law.finish doc handed
  refine ⟨reaches, ⟨doc, handed⟩, ⟨report, documented.reported, fun none => ?_⟩, ?_⟩
  · have refused := delivers.mp none
    cases listed : round.1.state.routes.units module with
    | nil => simp [RouteTable.units] at listed
    | cons unit rest =>
        rw [listed] at refused
        obtain ⟨rendered, status, -, taken, -⟩ := refused
        cases taken
  · rw [Pipeline.finish_offer, Language.state_emit, before, stays]

end Refused

end RouteAtlas
