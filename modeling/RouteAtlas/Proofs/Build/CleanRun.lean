import RouteAtlas.Proofs.Round.Hooks
import RouteAtlas.Proofs.Round.Offers
import RouteAtlas.Proofs.Unit.Owner
import RouteAtlas.Proofs.Unit.Tables

/-! # Clean builds leave no stale tables

Tables are written in every round that puts nothing off, and once more at the end. A write-once sink
lets only the first table of a name through, so in a build without failures every table that was
written early has the content of the one that the end of the build asks for.
-/

namespace RouteAtlas

/-- What came of the rounds of a build and of its end. -/
structure BuildRun (σ : Type) where
  /-- The outcomes of the rounds, then that of the end. -/
  outcomes : List RoundOutcome
  build : BuildState
  /-- State of the sink. -/
  state : σ

namespace Pipeline

variable {σ : Type}

/-- Run a round for each table, then end the build. -/
def runBuild (pipeline : Pipeline) (sink : Sink σ) (build : BuildState) (state : σ) :
    List SymbolTable → BuildRun σ
  | [] =>
    let (outcome, after) := pipeline.finish sink build state
    ⟨[outcome], outcome.state, after⟩
  | table :: rest =>
    let (outcome, after) := pipeline.runRound sink build table state
    let others := pipeline.runBuild sink outcome.state after rest
    { others with outcomes := outcome :: others.outcomes }

/-- The units that a build without failures offers to the sink, in order. -/
def offers (pipeline : Pipeline) (build : BuildState) : List SymbolTable → List GeneratedUnit
  | [] => pipeline.finishOffer build
  | table :: rest => pipeline.roundOffer table build ++ pipeline.offers (table.staged build) rest

end Pipeline

namespace BuildState

/-- The tables of the routes and interceptors of a build. -/
def tables (module : String) (build : BuildState) : List GeneratedUnit :=
  build.routes.units module ++ [build.hooks.unit module]

/-- What a build without failures carries after each round, and at its end. -/
def stages (build : BuildState) : List SymbolTable → List BuildState
  | [] => [build]
  | table :: rest => table.staged build :: stages (table.staged build) rest

/-- What a build without failures carries at its end. -/
def last (build : BuildState) (tables : List SymbolTable) : BuildState :=
  tables.foldl (fun build table => table.staged build) build

theorem last_mem_stages (build : BuildState) (tables : List SymbolTable) :
    build.last tables ∈ build.stages tables := by
  induction tables generalizing build with
  | nil => exact List.mem_cons_self
  | cons table rest ih => exact List.mem_cons_of_mem _ (ih _)

theorem wellFormed_stages {build : BuildState} (wellFormed : build.routes.WellFormed)
    {tables : List SymbolTable} {stage : BuildState} (member : stage ∈ build.stages tables) :
    stage.routes.WellFormed := by
  induction tables generalizing build with
  | nil =>
      rw [List.mem_singleton.mp member]
      exact wellFormed
  | cons table rest ih =>
      have next : (table.staged build).routes.WellFormed :=
        RouteTable.wellFormed_insertAll wellFormed _
      rcases List.mem_cons.mp member with rfl | later
      · exact next
      · exact ih next later

end BuildState

namespace Pipeline

section Clean

variable {σ : Type} {pipeline : Pipeline} {sink : Sink σ} {module : String}

/-- A clean build is one emission of what its rounds and its end offer. -/
theorem runBuild_clean (named : pipeline.options.moduleName = some module) {build : BuildState}
    {state : σ} {tables : List SymbolTable}
    (clean : ∀ outcome ∈ (pipeline.runBuild sink build state tables).outcomes, outcome.Clean) :
    (pipeline.runBuild sink build state tables).outcomes.map RoundOutcome.state =
        build.stages tables ∧
      (pipeline.runBuild sink build state tables).build = build.last tables ∧
      (pipeline.runBuild sink build state tables).state =
        (pipeline.language.emit sink state (pipeline.offers build tables)).state ∧
      (pipeline.language.emit sink state (pipeline.offers build tables)).report.isClean = true := by
  -- The state of the build and of the sink after one round are those in which the next one starts.
  induction tables generalizing build state with
  | nil =>
      have ended := finish_clean build (clean _ List.mem_cons_self)
      exact ⟨rfl, rfl, finish_offer build, ended⟩
  | cons table rest ih =>
      obtain ⟨taken, passed⟩ := runRound_clean named build (clean _ List.mem_cons_self)
      have after : (pipeline.runRound sink build table state).2 = _ := runRound_offer build
      have unfolded : pipeline.runBuild sink build state (table :: rest) =
          let others := pipeline.runBuild sink (table.staged build)
            (pipeline.language.emit sink state (pipeline.roundOffer table build)).state rest
          { others with
            outcomes := (pipeline.runRound sink build table state).1 :: others.outcomes } := by
        rw [← taken, ← after]
        rfl
      rw [unfolded] at clean ⊢
      obtain ⟨stages, last, written, others⟩ :=
        ih fun outcome member => clean outcome (List.mem_cons_of_mem _ member)
      refine ⟨?_, last, ?_, ?_⟩
      · rw [List.map_cons, taken, stages]
        rfl
      · rw [written, offers, Language.state_emit_append]
      · rw [offers, Language.isClean_emit_append]
        exact ⟨passed, others⟩

end Clean

/-- Where a unit that a build offers comes from. -/
inductive Origin (module : String) (stages : List BuildState) (offered : List GeneratedUnit) :
    GeneratedUnit → Prop where
  /-- It is the injector of a class. -/
  | injector (plan : InjectorPlan) : Origin module stages offered plan.unit
  /-- It is one of the tables of the routes, which were offered all together. -/
  | routes {build unit} (stage : build ∈ stages) (whole : build.routes.units module ⊆ offered)
    (member : unit ∈ build.routes.units module) : Origin module stages offered unit
  /-- It is the table of the interceptors. -/
  | hooks {build} (stage : build ∈ stages) :
    Origin module stages offered (build.hooks.unit module)

theorem Origin.mono {module : String} {stages more : List BuildState}
    {offered others : List GeneratedUnit} {unit : GeneratedUnit} (stageSubset : stages ⊆ more)
    (subset : offered ⊆ others) (origin : Origin module stages offered unit) :
    Origin module more others unit := by
  cases origin with
  | injector plan => exact .injector plan
  | routes stage whole member =>
      exact .routes (stageSubset stage) (List.Subset.trans whole subset) member
  | hooks stage => exact .hooks (stageSubset stage)

theorem finishOffer_subset_offers {pipeline : Pipeline} {build : BuildState}
    (tables : List SymbolTable) :
    pipeline.finishOffer (build.last tables) ⊆ pipeline.offers build tables := by
  induction tables generalizing build with
  | nil => exact List.Subset.refl _
  | cons table rest ih => exact List.Subset.trans ih (List.subset_append_right _ _)

section Offers

variable {pipeline : Pipeline} {module : String}
  (named : pipeline.options.moduleName = some module)
include named

theorem origin_roundOffer {build : BuildState} {table : SymbolTable} {unit : GeneratedUnit}
    (member : unit ∈ pipeline.roundOffer table build) :
    Origin module [table.staged build] (pipeline.roundOffer table build) unit := by
  rw [roundOffer, List.mem_append, List.mem_append] at member
  rcases member with (ofRoutes | ofHooks) | ofInjectors
  · rcases routeOffer_cases named build.routes with nothing | all
    · rw [nothing] at ofRoutes
      cases ofRoutes
    · rw [all] at ofRoutes
      refine .routes List.mem_cons_self ?_ ofRoutes
      intro other otherIn
      rw [roundOffer, all]
      exact List.mem_append_left _ (List.mem_append_left _ otherIn)
  · rcases hookOffer_cases named build.hooks with nothing | one
    · rw [nothing] at ofHooks
      cases ofHooks
    · rw [one] at ofHooks
      rw [List.mem_singleton.mp ofHooks]
      exact .hooks List.mem_cons_self
  · obtain ⟨plan, rfl⟩ := mem_injectorOffer ofInjectors
    exact .injector plan

theorem units_subset_finishOffer {build : BuildState} (filled : build.routes.isEmpty = false) :
    build.routes.units module ⊆ pipeline.finishOffer build := by
  intro unit member
  rw [finishOffer, routeFlush_eq named, filled]
  exact List.mem_append_left _ member

theorem hookUnit_mem_finishOffer {build : BuildState} (filled : build.hooks.isEmpty = false) :
    build.hooks.unit module ∈ pipeline.finishOffer build := by
  rw [finishOffer, hookFlush_eq named, filled]
  exact List.mem_append_right _ List.mem_cons_self

theorem origin_finishOffer {build : BuildState} {unit : GeneratedUnit}
    (member : unit ∈ pipeline.finishOffer build) :
    Origin module [build] (pipeline.finishOffer build) unit := by
  have parts := member
  rw [finishOffer, routeFlush_eq named, hookFlush_eq named, List.mem_append] at parts
  rcases parts with ofRoutes | ofHooks
  · cases vacant : build.routes.isEmpty with
    | true => simp [vacant] at ofRoutes
    | false =>
        rw [vacant] at ofRoutes
        exact .routes List.mem_cons_self (units_subset_finishOffer named vacant) ofRoutes
  · cases vacant : build.hooks.isEmpty with
    | true => simp [vacant] at ofHooks
    | false =>
        rw [vacant] at ofHooks
        rw [List.mem_singleton.mp ofHooks]
        exact .hooks List.mem_cons_self

/-- Every unit that a build offers is an injector or a table of one of its stages. -/
theorem origin_offers {build : BuildState} {tables : List SymbolTable} {unit : GeneratedUnit}
    (member : unit ∈ pipeline.offers build tables) :
    Origin module (build.stages tables) (pipeline.offers build tables) unit := by
  induction tables generalizing build with
  | nil => exact origin_finishOffer named member
  | cons table rest ih =>
      rcases List.mem_append.mp member with now | later
      · refine (origin_roundOffer named now).mono ?_ (List.subset_append_left _ _)
        intro stage here
        rw [List.mem_singleton.mp here]
        exact List.mem_cons_self
      · exact (ih later).mono (List.subset_cons_self _ _) (List.subset_append_right _ _)

end Offers

end Pipeline

/-- A ledger after a clean emission: it holds units that were offered, and what was offered has the
    content of what it holds under that name. -/
structure Settled (language : Language) (offered : List GeneratedUnit) (ledger : Ledger) :
    Prop where
  distinct : (ledger.map RenderedUnit.key).Nodup
  made : ∀ rendered ∈ ledger, ∃ unit ∈ offered, language.render unit = .ok rendered
  passed : ∀ unit ∈ offered, ∃ rendered, language.render unit = .ok rendered ∧
    ∃ known, ledger.find rendered.key = some known ∧
      Text.Digest.ofText known.source = Text.Digest.ofText rendered.source

namespace Settled

variable {language : Language} {offered : List GeneratedUnit} {ledger : Ledger}

theorem of_clean {σ : Type} {inner : Sink σ} (accepts : inner.Accepts) {start : σ}
    (clean : (language.emit (.writeOnce inner) ⟨start, []⟩ offered).report.isClean = true) :
    Settled language offered (Ledger.addAll [] (language.renderAll offered)) where
  distinct := (language.kept_emit accepts (.empty inner start) offered).distinct
  made := by
    intro rendered member
    rcases Ledger.mem_of_mem_addAll member with nothing | later
    · cases nothing
    · exact language.mem_renderAll.mp later
  passed := fun _ => language.rendered_of_clean accepts (.empty inner start) clean

/-- Under the name of a unit that was offered a unit with its content was let through. -/
theorem twin (settled : Settled language offered ledger) {unit : GeneratedUnit}
    (member : unit ∈ offered) :
    ∃ known ∈ ledger, ∃ first ∈ offered, language.render first = .ok known ∧
      first.key = unit.key ∧
      Text.Digest.ofText (language.source first) = Text.Digest.ofText (language.source unit) := by
  obtain ⟨rendered, done, known, found, same⟩ := settled.passed unit member
  obtain ⟨key, -, source⟩ := Language.render_eq_ok done
  obtain ⟨first, firstIn, firstDone⟩ := settled.made known (Ledger.mem_of_find found)
  obtain ⟨firstKey, -, firstSource⟩ := Language.render_eq_ok firstDone
  refine ⟨known, Ledger.mem_of_find found, first, firstIn, firstDone, ?_, ?_⟩
  · rw [← firstKey, Ledger.key_of_find found, key]
  · rw [← firstSource, same, source]

theorem digest_eq (settled : Settled language offered ledger) {unit other : GeneratedUnit}
    (member : unit ∈ offered) (otherIn : other ∈ offered) (keys : unit.key = other.key) :
    Text.Digest.ofText (language.source unit) = Text.Digest.ofText (language.source other) := by
  obtain ⟨known, knownIn, first, -, made, firstKey, same⟩ := settled.twin member
  obtain ⟨held, heldIn, second, -, otherMade, secondKey, otherSame⟩ := settled.twin otherIn
  obtain ⟨knownKey, -, knownSource⟩ := Language.render_eq_ok made
  obtain ⟨heldKey, -, heldSource⟩ := Language.render_eq_ok otherMade
  have one : known = held := by
    apply List.inj_on_of_nodup_map settled.distinct knownIn heldIn
    rw [knownKey, heldKey, firstKey, secondKey, keys]
  rw [← same, ← otherSame, ← knownSource, ← heldSource, one]

end Settled

/-- Tables of one name that a build goes through and that differ have different digests. -/
def DigestsTell (language : Language) (module : String) (stages : List BuildState) : Prop :=
  ∀ a ∈ stages, ∀ b ∈ stages, ∀ unit ∈ a.tables module, ∀ other ∈ b.tables module,
    unit.key = other.key →
      Text.Digest.ofText (language.source unit) = Text.Digest.ofText (language.source other) →
        language.source unit = language.source other

/-- A unit with the given name and source is stored. -/
def Store.Has (store : Store) (key : UnitKey) (source : String) : Prop :=
  ∃ unit ∈ store.values, unit.key = key ∧ unit.source = source

/-- A unit with the given name and source is to be generated. -/
def Language.Makes (language : Language) (units : List GeneratedUnit) (key : UnitKey)
    (source : String) : Prop :=
  ∃ unit ∈ units, unit.key = key ∧
    ∃ rendered, language.render unit = .ok rendered ∧ rendered.source = source

/-- What is stored of the tables of a module are the tables of a build, and nothing else. -/
structure ExactTables (language : Language) (module : String) (build : BuildState)
    (store : Store) : Prop where
  single : ∀ unit ∈ store.values, ∀ other ∈ store.values, unit.key = other.key → unit = other
  routes : build.routes.isEmpty = false → ∀ key source, IsRouteKey module key →
    (store.Has key source ↔ language.Makes (build.routes.units module) key source)
  hooks : build.hooks.isEmpty = false → ∀ source,
    (store.Has (.interceptors module) source ↔
      language.Makes [build.hooks.unit module] (.interceptors module) source)

namespace Pipeline.Origin

variable {module : String} {stages : List BuildState} {offered : List GeneratedUnit}
  {unit : GeneratedUnit}

theorem of_isRouteKey (origin : Origin module stages offered unit)
    (isRoute : IsRouteKey module unit.key) :
    ∃ stage ∈ stages, stage.routes.units module ⊆ offered ∧
      unit ∈ stage.routes.units module := by
  cases origin with
  | injector plan => exact absurd rfl (IsTableKey.ne_injector (.inl isRoute) plan.target)
  | routes stage whole member => exact ⟨_, stage, whole, member⟩
  | hooks => exact absurd rfl (isRoute.ne_interceptors module)

theorem of_interceptors (wellFormed : ∀ stage ∈ stages, stage.routes.WellFormed)
    (origin : Origin module stages offered unit) (named : unit.key = .interceptors module) :
    ∃ stage ∈ stages, unit = stage.hooks.unit module := by
  cases origin with
  | injector plan => exact absurd named.symm (IsTableKey.ne_injector (.inr rfl) plan.target)
  | routes stage whole member =>
      exact absurd named (((wellFormed _ stage).isRouteKey member).ne_interceptors module)
  | hooks stage => exact ⟨_, stage, rfl⟩

/-- A unit that lies where a table does goes by the name of the table. -/
theorem key_eq_of_path (wellFormed : ∀ stage ∈ stages, stage.routes.WellFormed)
    (origin : Origin module stages offered unit) {key : UnitKey}
    (isTable : IsTableKey module key) {extension : String} (plainEnd : '$' ∉ extension.toList)
    (paths : unit.key.path extension = key.path extension) : unit.key = key := by
  cases origin with
  | injector plan => exact absurd paths.symm (isTable.path_ne_injector plan.target plainEnd)
  | routes stage whole member =>
      refine UnitKey.path_injective ?_ paths
      rw [((wellFormed _ stage).isRouteKey member).package_eq, isTable.package_eq]
  | hooks =>
      refine UnitKey.path_injective ?_ paths
      rw [isTable.package_eq]
      rfl

end Pipeline.Origin

section Exact

variable {language : Language} {module : String} {stages : List BuildState}
  {offered : List GeneratedUnit} {ledger : Ledger}

theorem source_eq (settled : Settled language offered ledger)
    (told : DigestsTell language module stages) {a b : BuildState} (aIn : a ∈ stages)
    (bIn : b ∈ stages) {unit other : GeneratedUnit} (ofA : unit ∈ a.tables module)
    (ofB : other ∈ b.tables module) (member : unit ∈ offered) (otherIn : other ∈ offered)
    (keys : unit.key = other.key) : language.source unit = language.source other :=
  told a aIn b bIn unit ofA other ofB keys (settled.digest_eq member otherIn keys)

theorem offered_of_stored (settled : Settled language offered ledger) {stored : RenderedUnit}
    (member : stored ∈ (Sink.memory.writeAll .empty ledger).values) :
    ∃ unit ∈ offered, stored.key = unit.key ∧ stored.source = language.source unit := by
  obtain ⟨unit, unitIn, made⟩ := settled.made stored (Sink.mem_of_mem_values_memory member)
  obtain ⟨key, -, written⟩ := Language.render_eq_ok made
  exact ⟨unit, unitIn, key, written⟩

/-- A table that was let through is not written over. -/
theorem stored_of_isTableKey (settled : Settled language offered ledger)
    (origins : ∀ unit ∈ offered, Pipeline.Origin module stages offered unit)
    (wellFormed : ∀ stage ∈ stages, stage.routes.WellFormed) {rendered : RenderedUnit}
    (member : rendered ∈ ledger) (isTable : IsTableKey module rendered.key) :
    rendered ∈ (Sink.memory.writeAll .empty ledger).values := by
  apply Sink.mem_values_memory member
  intro other otherIn paths
  obtain ⟨unit, _, made⟩ := settled.made rendered member
  obtain ⟨first, firstIn, firstMade⟩ := settled.made other otherIn
  obtain ⟨key, path, -⟩ := Language.render_eq_ok made
  obtain ⟨firstKey, firstPath, -⟩ := Language.render_eq_ok firstMade
  apply List.inj_on_of_nodup_map settled.distinct otherIn member
  rw [firstPath, path, ← key] at paths
  rw [firstKey]
  exact (origins first firstIn).key_eq_of_path wellFormed isTable
    language.dollar_not_mem_extension paths

/-- Of a table that was offered some table of its name is stored. -/
theorem has_of_offered (settled : Settled language offered ledger)
    (origins : ∀ unit ∈ offered, Pipeline.Origin module stages offered unit)
    (wellFormed : ∀ stage ∈ stages, stage.routes.WellFormed) {unit : GeneratedUnit}
    (member : unit ∈ offered) (isTable : IsTableKey module unit.key) :
    ∃ first ∈ offered, first.key = unit.key ∧
      Store.Has (Sink.memory.writeAll .empty ledger) unit.key (language.source first) := by
  obtain ⟨known, knownIn, first, firstIn, made, keys, -⟩ := settled.twin member
  obtain ⟨key, -, source⟩ := Language.render_eq_ok made
  have named : known.key = unit.key := key.trans keys
  refine ⟨first, firstIn, keys, known, ?_, named, source⟩
  exact stored_of_isTableKey settled origins wellFormed knownIn (by rwa [named])

theorem makes_of_mem (settled : Settled language offered ledger) {units : List GeneratedUnit}
    {unit : GeneratedUnit} (member : unit ∈ units) (offeredIn : unit ∈ offered) :
    language.Makes units unit.key (language.source unit) := by
  obtain ⟨rendered, made, -⟩ := settled.passed unit offeredIn
  obtain ⟨-, -, source⟩ := Language.render_eq_ok made
  exact ⟨unit, member, rfl, rendered, made, source⟩

theorem groupNames_eq (settled : Settled language offered ledger)
    (wellFormed : ∀ stage ∈ stages, stage.routes.WellFormed)
    (told : DigestsTell language module stages) {a b : BuildState} (aIn : a ∈ stages)
    (bIn : b ∈ stages) (aOffered : a.routes.units module ⊆ offered)
    (bOffered : b.routes.units module ⊆ offered) : a.routes.groupNames = b.routes.groupNames := by
  have ofA := RouteTable.rootUnit_mem_units module a.routes
  have ofB := RouteTable.rootUnit_mem_units module b.routes
  exact RouteTable.groupNames_eq_of_source (wellFormed a aIn) (wellFormed b bIn)
    (source_eq settled told aIn bIn (List.mem_append_left _ ofA) (List.mem_append_left _ ofB)
      (aOffered ofA) (bOffered ofB) rfl)

theorem exactTables_of_settled (settled : Settled language offered ledger)
    (origins : ∀ unit ∈ offered, Pipeline.Origin module stages offered unit)
    (wellFormed : ∀ stage ∈ stages, stage.routes.WellFormed)
    (told : DigestsTell language module stages) {build : BuildState} (last : build ∈ stages)
    (routesIn : build.routes.isEmpty = false → build.routes.units module ⊆ offered)
    (hooksIn : build.hooks.isEmpty = false → build.hooks.unit module ∈ offered) :
    ExactTables language module build (Sink.memory.writeAll .empty ledger) := by
  constructor
  case single =>
    intro unit member other otherIn keys
    exact List.inj_on_of_nodup_map settled.distinct (Sink.mem_of_mem_values_memory member)
      (Sink.mem_of_mem_values_memory otherIn) keys
  case routes =>
    intro filled key source isRoute
    have all := routesIn filled
    constructor
    · rintro ⟨stored, member, rfl, rfl⟩
      obtain ⟨unit, unitIn, key, written⟩ := offered_of_stored settled member
      rw [key] at isRoute
      -- The unit may stem from an earlier stage, but one of its name is among those of the last.
      obtain ⟨stage, stageIn, whole, ofStage⟩ := (origins unit unitIn).of_isRouteKey isRoute
      have groups := groupNames_eq settled wellFormed told stageIn last whole all
      obtain ⟨twin, ofBuild, twinKey⟩ := RouteTable.exists_unit groups ofStage
      have sources := source_eq settled told last stageIn (List.mem_append_left _ ofBuild)
        (List.mem_append_left _ ofStage) (all ofBuild) unitIn twinKey
      rw [key, written, ← sources, ← twinKey]
      exact makes_of_mem settled ofBuild (all ofBuild)
    · rintro ⟨unit, ofBuild, rfl, rendered, made, rfl⟩
      obtain ⟨-, -, source⟩ := Language.render_eq_ok made
      obtain ⟨first, firstIn, keys, has⟩ :=
        has_of_offered settled origins wellFormed (all ofBuild) (.inl isRoute)
      rw [← keys] at isRoute
      obtain ⟨stage, stageIn, -, ofStage⟩ := (origins first firstIn).of_isRouteKey isRoute
      have sources := source_eq settled told stageIn last (List.mem_append_left _ ofStage)
        (List.mem_append_left _ ofBuild) firstIn (all ofBuild) keys
      rwa [source, ← sources]
  case hooks =>
    intro filled source
    have offeredIn := hooksIn filled
    have ofBuild : build.hooks.unit module ∈ build.tables module :=
      List.mem_append_right _ List.mem_cons_self
    constructor
    · rintro ⟨stored, member, named, rfl⟩
      obtain ⟨unit, unitIn, key, written⟩ := offered_of_stored settled member
      obtain ⟨stage, stageIn, rfl⟩ :=
        (origins unit unitIn).of_interceptors wellFormed (key.symm.trans named)
      have sources := source_eq settled told last stageIn ofBuild
        (List.mem_append_right _ List.mem_cons_self) offeredIn unitIn rfl
      rw [written, ← sources]
      exact makes_of_mem settled List.mem_cons_self offeredIn
    · rintro ⟨unit, member, -, rendered, made, rfl⟩
      obtain ⟨-, -, source⟩ := Language.render_eq_ok made
      rw [List.mem_singleton.mp member] at source
      obtain ⟨first, firstIn, keys, has⟩ :=
        has_of_offered settled origins wellFormed offeredIn (.inr rfl)
      obtain ⟨stage, stageIn, rfl⟩ := (origins first firstIn).of_interceptors wellFormed keys
      have sources := source_eq settled told stageIn last
        (List.mem_append_right _ List.mem_cons_self) ofBuild firstIn offeredIn rfl
      rwa [source, ← sources]

end Exact

/-- After a build without failures exactly the tables of its last state are stored. -/
theorem exactTables_of_clean {pipeline : Pipeline} {module : String} {tables : List SymbolTable}
    (named : pipeline.options.moduleName = some module) {run : BuildRun (WriteOnce Store)}
    (ran : pipeline.runBuild (.writeOnce .memory) {} ⟨.empty, []⟩ tables = run)
    (clean : ∀ outcome ∈ run.outcomes, outcome.Clean)
    (told : DigestsTell pipeline.language module (run.outcomes.map RoundOutcome.state)) :
    ExactTables pipeline.language module run.build run.state.inner := by
  subst ran
  obtain ⟨stages, last, written, passed⟩ := Pipeline.runBuild_clean named clean
  have settled := Settled.of_clean Sink.accepts_memory passed
  have kept := pipeline.language.kept_emit Sink.accepts_memory (.empty .memory .empty)
    (pipeline.offers {} tables)
  rw [stages] at told
  rw [last, written, kept.below]
  have wellFormed : ∀ stage ∈ BuildState.stages {} tables, stage.routes.WellFormed :=
    fun _ => BuildState.wellFormed_stages RouteTable.wellFormed_empty
  apply exactTables_of_settled settled (fun _ => Pipeline.origin_offers named) wellFormed told
    (BuildState.last_mem_stages {} tables)
  · intro filled unit member
    exact Pipeline.finishOffer_subset_offers tables
      (Pipeline.units_subset_finishOffer named filled member)
  · intro filled
    exact Pipeline.finishOffer_subset_offers tables
      (Pipeline.hookUnit_mem_finishOffer named filled)

section HeldBack

private def homePage : Declaration :=
  { qualifiedName := "app.Home"
    supertypes := [.named Contract.activity]
    marks := { route := some { path := "/main/home" } } }

private def loginGuard : Declaration :=
  { qualifiedName := "app.Login"
    supertypes := [.named Contract.interceptor]
    marks := { hook := some { priority := 1 } } }

/-- A screen and an interceptor, beside others that are put off. -/
private def heldBack : SymbolTable :=
  .ofList [homePage, loginGuard,
    { qualifiedName := "app.Late", marks := { route := some { path := "/main/late" } }
      resolved := false },
    { qualifiedName := "app.Later", marks := { hook := some { priority := 2 } }
      resolved := false }]

private def homeRecord : RouteRecord :=
  { path := "/main/home", kind := .screen, target := .named "app.Home" }

private def loginHook : HookRecord :=
  { priority := 1, target := .named "app.Login" }

/-- What the build carries once the screen and the interceptor were found. -/
private def foundBuild : BuildState :=
  { routes := (RouteTable.empty.insertAll [homeRecord]).table
    hooks := ⟨SortedMap.empty.insert 1 loginHook⟩ }

private def kotlinApp : Pipeline :=
  { options := { moduleName := some "app" } }

private theorem stagedRoutes_heldBack : heldBack.stagedRoutes .empty = foundBuild.routes := by
  have found : resolvedOnes heldBack.routes = [homePage] := by decide +kernel
  have single : homePage.supertypes = [.named Contract.activity] := rfl
  have kind : heldBack.routeKind homePage = .screen := by
    rw [SymbolTable.routeKind,
      SymbolTable.firstMatch_of_unknown single (by decide) (by decide +kernel)]
    decide +kernel
  have extracted : heldBack.extractRoute homePage = .ok homeRecord := by
    rw [SymbolTable.extractRoute, kind]
    rfl
  rw [SymbolTable.stagedRoutes, found]
  simp only [SymbolTable.extractRoutes, List.filterMap_cons, extracted, Except.toOption,
    List.filterMap_nil]
  rfl

private theorem stagedHooks_heldBack :
    (heldBack.stagedHooks .empty).table = foundBuild.hooks ∧
      (heldBack.stagedHooks .empty).fatal = none := by
  have found : resolvedOnes heldBack.hooks = [loginGuard] := by decide +kernel
  have marked : loginGuard.marks.hook = some { priority := 1 } := rfl
  have hooked : heldBack.hookOf loginGuard = .ok loginHook :=
    SymbolTable.hookOf_of_unknown marked rfl (by decide) (by decide +kernel)
  exact SymbolTable.stagedHooks_of_single found hooked rfl

private theorem staged_heldBack : heldBack.staged {} = foundBuild := by
  rw [SymbolTable.staged, stagedRoutes_heldBack, stagedHooks_heldBack.1]

private theorem clean_heldBack :
    (kotlinApp.runRound (.writeOnce .memory) {} heldBack ⟨.empty, []⟩).1.Clean := by
  intro report member
  simp only [Pipeline.runRound, List.mem_cons, List.not_mem_nil, or_false] at member
  rcases member with rfl | rfl | rfl
  · exact ⟨rfl, by rw [(Pipeline.runRoutes_offer _).2]; rfl⟩
  · refine ⟨?_, by rw [(Pipeline.runHooks_offer _).2]; rfl⟩
    have named : kotlinApp.options.moduleName = some "app" := rfl
    rw [Pipeline.fatal_runHooks named]
    exact stagedHooks_heldBack.2
  · exact ⟨by decide +kernel, by decide +kernel⟩

/-- Tables that were held back are written at the end. -/
theorem exactTables_of_heldBack :
    let run := kotlinApp.runBuild (.writeOnce .memory) {} ⟨.empty, []⟩ [heldBack]
    kotlinApp.options.moduleName = some "app" ∧ (∀ outcome ∈ run.outcomes, outcome.Clean) ∧
      DigestsTell kotlinApp.language "app" (run.outcomes.map RoundOutcome.state) ∧
      ExactTables kotlinApp.language "app" run.build run.state.inner ∧
      run.build.routes.isEmpty = false ∧ run.build.hooks.isEmpty = false := by
  intro run
  have named : kotlinApp.options.moduleName = some "app" := rfl
  obtain ⟨taken, -⟩ := Pipeline.runRound_clean named {} clean_heldBack
  rw [staged_heldBack] at taken
  have after : (kotlinApp.runRound (.writeOnce .memory) {} heldBack ⟨.empty, []⟩).2 =
      ⟨.empty, []⟩ := by
    rw [Pipeline.runRound_offer]
    rfl
  have ended : (kotlinApp.finish (.writeOnce .memory) foundBuild ⟨.empty, []⟩).1.Clean := by
    unfold RoundOutcome.Clean
    decide +kernel
  have unfolded : run =
      ⟨[(kotlinApp.runRound (.writeOnce .memory) {} heldBack ⟨.empty, []⟩).1,
        (kotlinApp.finish (.writeOnce .memory) foundBuild ⟨.empty, []⟩).1], foundBuild,
        (kotlinApp.finish (.writeOnce .memory) foundBuild ⟨.empty, []⟩).2⟩ := by
    change Pipeline.runBuild _ _ _ _ _ = _
    simp only [Pipeline.runBuild, taken, after]
    rfl
  have clean : ∀ outcome ∈ run.outcomes, outcome.Clean := by
    rw [unfolded]
    intro outcome member
    simp only [List.mem_cons, List.not_mem_nil, or_false] at member
    rcases member with rfl | rfl
    · exact clean_heldBack
    · exact ended
  have told : DigestsTell kotlinApp.language "app" (run.outcomes.map RoundOutcome.state) := by
    have stages : run.outcomes.map RoundOutcome.state = [foundBuild, foundBuild] := by
      rw [unfolded, List.map_cons, taken]
      rfl
    have distinct : ((foundBuild.tables "app").map GeneratedUnit.key).Nodup := by decide +kernel
    rw [stages]
    intro a aIn b bIn unit ofA other ofB keys _
    simp only [List.mem_cons, List.not_mem_nil, or_false, or_self] at aIn bIn
    rw [aIn] at ofA
    rw [bIn] at ofB
    rw [List.inj_on_of_nodup_map distinct ofA ofB keys]
  refine ⟨named, clean, told, exactTables_of_clean named rfl clean told, ?_, ?_⟩
  · rw [unfolded]
    decide +kernel
  · rw [unfolded]
    decide +kernel

end HeldBack

end RouteAtlas
