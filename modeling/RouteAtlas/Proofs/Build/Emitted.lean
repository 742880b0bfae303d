import RouteAtlas.Proofs.Round.Units

/-! # Emissions that fail

The first round of a build writes all its units. Later on a unit fails only if its name was used for
other content: nothing fails because it cannot be rendered.
-/

namespace RouteAtlas

/-- What the processors of a round emitted, as one report. -/
def RoundOutcome.emitted (outcome : RoundOutcome) : EmitReport where
  written := outcome.reports.flatMap fun report => report.emitted.written
  unchanged := outcome.reports.flatMap fun report => report.emitted.unchanged
  failed := outcome.reports.flatMap fun report => report.emitted.failed

/-- Units fail only because their names were used for other content. -/
def EmitReport.FailsOnReuse (report : EmitReport) : Prop :=
  ∀ failure ∈ report.failed, failure.2 = .alreadyEmitted failure.1.qualifiedName

namespace EmitReport

theorem append_assoc (first second third : EmitReport) :
    first ++ second ++ third = first ++ (second ++ third) := by
  change EmitReport.mk _ _ _ = EmitReport.mk _ _ _
  rw [EmitReport.mk.injEq]
  exact ⟨List.append_assoc .., List.append_assoc .., List.append_assoc ..⟩

theorem FailsOnReuse.append {first second : EmitReport} (here : first.FailsOnReuse)
    (there : second.FailsOnReuse) : (first ++ second).FailsOnReuse :=
  List.forall_mem_append.mpr ⟨here, there⟩

end EmitReport

/-- A sink that refuses nothing is told of no failure but the one of a name that was used. -/
theorem Sink.failsOnReuse_write {σ : Type} {inner : Sink σ} (accepts : inner.Accepts)
    (state : WriteOnce σ) (unit : RenderedUnit) :
    (EmitReport.ofResult unit.key ((writeOnce inner).write state unit).1).FailsOnReuse := by
  cases found : state.digest? unit.key with
  | some known =>
      rw [write_known found]
      dsimp only
      split
      · exact fun _ member => nomatch member
      · intro failure member
        rw [List.mem_singleton.mp member]
  | none =>
      obtain ⟨status, written⟩ := accepts state.inner unit
      rw [write_new found written]
      cases status <;> exact fun _ member => nomatch member

namespace Language

variable {σ : Type} {language : Language}

theorem report_emit_append (sink : Sink σ) (state : σ) (first second : List GeneratedUnit) :
    (language.emit sink state (first ++ second)).report =
      (language.emit sink state first).report ++
        (language.emit sink (language.emit sink state first).state second).report := by
  induction first generalizing state with
  | nil => rfl
  | cons unit rest ih =>
      rw [List.cons_append, report_emit_cons, report_emit_cons, ih, EmitReport.append_assoc,
        state_emit_cons]

/-- Units that can be rendered are written if their names are new and differ. -/
theorem report_emit_new {state : WriteOnce Store} {units : List GeneratedUnit}
    (rendered : ∀ unit ∈ units, ∃ rendered, language.render unit = .ok rendered)
    (distinct : (units.map GeneratedUnit.key).Nodup)
    (new : ∀ unit ∈ units, state.digest? unit.key = none) :
    (language.emit (.writeOnce .memory) state units).report =
      { written := units.map GeneratedUnit.key } := by
  induction units generalizing state with
  | nil => rfl
  | cons unit rest ih =>
      obtain ⟨absent, others⟩ := List.nodup_cons.mp distinct
      obtain ⟨text, done⟩ := rendered unit List.mem_cons_self
      have key := (render_eq_ok done).1
      have emitted : language.emitUnit (.writeOnce .memory) state unit =
          (Sink.writeOnce .memory).write state text := emitUnit_of_ok _ done
      have unknown : state.digest? text.key = none := by
        rw [key]
        exact new unit List.mem_cons_self
      have written : (language.emitUnit (.writeOnce .memory) state unit).1 = .ok .written := by
        rw [emitted, Sink.write_new unknown rfl]
      rw [report_emit_cons, written,
        ih (fun other member => rendered other (List.mem_cons_of_mem _ member)) others]
      · rfl
      · intro other member
        have apart : unit.key ≠ other.key := fun same => absent (same ▸ List.mem_map_of_mem member)
        rw [emitted, ← Sink.guarded_none, Sink.digest?_write Sink.accepts_memory,
          new other (List.mem_cons_of_mem _ member), Option.none_or]
        simp [Sink.digestOf?, Ledger.find, key, apart]

/-- Units that can be rendered fail only if their names were used for other content. -/
theorem failsOnReuse_emit {inner : Sink σ} (accepts : inner.Accepts) {state : WriteOnce σ}
    {units : List GeneratedUnit}
    (rendered : ∀ unit ∈ units, ∃ rendered, language.render unit = .ok rendered) :
    (language.emit (.writeOnce inner) state units).report.FailsOnReuse := by
  induction units generalizing state with
  | nil => exact fun _ member => nomatch member
  | cons unit rest ih =>
      obtain ⟨text, done⟩ := rendered unit List.mem_cons_self
      rw [report_emit_cons]
      apply EmitReport.FailsOnReuse.append
      · rw [emitUnit_of_ok _ done, ← (render_eq_ok done).1]
        exact Sink.failsOnReuse_write accepts state text
      · exact ih fun other member => rendered other (List.mem_cons_of_mem _ member)

end Language

namespace Pipeline

variable {σ : Type} {pipeline : Pipeline} {sink : Sink σ} {table : SymbolTable} {state : σ}

/-- A round emits what it offers to the sink. -/
theorem emitted_runRound (build : BuildState) :
    (pipeline.runRound sink build table state).1.emitted =
      (pipeline.language.emit sink state (pipeline.roundOffer table build)).report := by
  rw [roundOffer, Language.report_emit_append, Language.report_emit_append,
    Language.state_emit_append]
  simp only [RoundOutcome.emitted, runRound, List.flatMap_cons, List.flatMap_nil, List.append_nil]
  rw [runInjectors_offer.2, (runHooks_offer _).1, (runHooks_offer _).2, (runRoutes_offer _).1,
    (runRoutes_offer _).2, EmitReport.append_assoc]
  rfl

theorem emitted_finish (build : BuildState) :
    (pipeline.finish sink build state).1.emitted =
      (pipeline.language.emit sink state (pipeline.finishOffer build)).report := by
  rw [finishOffer, Language.report_emit_append]
  simp only [RoundOutcome.emitted, finish, List.flatMap_cons, List.flatMap_nil, List.append_nil]
  rw [(flushHooks_offer _).2, (flushRoutes_offer _).1, (flushRoutes_offer _).2]
  rfl

end Pipeline

/-- The first round of a build writes all its units, each to a file of its own. -/
structure FirstEmission (pipeline : Pipeline) (table : SymbolTable) : Prop where
  emitted : (pipeline.runRound (.writeOnce .memory) {} table ⟨.empty, []⟩).1.emitted =
    { written := (pipeline.roundOffer table {}).map GeneratedUnit.key }
  keys : ((pipeline.roundOffer table {}).map GeneratedUnit.key).Nodup
  paths : ((pipeline.roundOffer table {}).map fun unit =>
    unit.key.path pipeline.language.extension).Nodup

/-- Whatever a build has come to, its units can be rendered, and fail only if their names were used
    for other content. -/
structure LaterEmission (pipeline : Pipeline) (build : BuildState) (table : SymbolTable)
    (state : WriteOnce Store) : Prop where
  round : (pipeline.runRound (.writeOnce .memory) build table state).1.emitted.FailsOnReuse
  finish : (pipeline.finish (.writeOnce .memory) build state).1.emitted.FailsOnReuse
  rendered : ∀ unit ∈ pipeline.roundOffer table build ++ pipeline.finishOffer build,
    ∀ language : Language, ∃ rendered, language.render unit = .ok rendered
  groups : ∀ name ∈ build.routes.groupNames, ∀ key, checkIdentifier key name = .ok ()

theorem firstEmission {table : SymbolTable} (pipeline : Pipeline)
    (plain : ∀ decl ∈ table.declarations, decl.IsPlain) : FirstEmission pipeline table := by
  have routes := BuildState.Reachable.start.wellFormed_routes
  have keys := Pipeline.nodup_keys_roundOffer pipeline routes plain
  refine ⟨?_, keys, Pipeline.nodup_paths_roundOffer routes plain _⟩
  rw [Pipeline.emitted_runRound]
  exact Language.report_emit_new (fun _ => Pipeline.render_of_mem_roundOffer routes) keys
    fun _ _ => rfl

theorem BuildState.Reachable.laterEmission {build : BuildState} (reachable : build.Reachable)
    (pipeline : Pipeline) (table : SymbolTable) (state : WriteOnce Store) :
    LaterEmission pipeline build table state := by
  have routes := reachable.wellFormed_routes
  constructor
  case round =>
    rw [Pipeline.emitted_runRound]
    exact Language.failsOnReuse_emit Sink.accepts_memory
      fun _ => Pipeline.render_of_mem_roundOffer routes
  case finish =>
    rw [Pipeline.emitted_finish]
    exact Language.failsOnReuse_emit Sink.accepts_memory
      fun _ => Pipeline.render_of_mem_finishOffer routes
  case rendered =>
    intro unit member language
    rcases List.mem_append.mp member with inRound | atEnd
    · exact Pipeline.render_of_mem_roundOffer routes inRound
    · exact Pipeline.render_of_mem_finishOffer routes atEnd
  case groups => exact fun name known key => routes.checkIdentifier known key

/-- Nothing fails in a first round over classes with plain names, and later on nothing fails but
    units whose names were used for other content. -/
theorem emitted_of_plain (pipeline : Pipeline) {table : SymbolTable}
    (plain : ∀ decl ∈ table.declarations, decl.IsPlain) :
    FirstEmission pipeline table ∧ ∀ build : BuildState, build.Reachable →
      ∀ later state, LaterEmission pipeline build later state :=
  ⟨firstEmission pipeline plain, fun _ reachable => reachable.laterEmission pipeline⟩

theorem Text.Digest.ofText_ne_empty (text : String) : ofText text ≠ "" := by
  intro empty
  have letters := congrArg String.toList empty
  simp [ofText, ofBytes, Words.toList, bytesOf] at letters

/-- The table of an interceptor is written first, and fails where its name was used for other
    content. -/
theorem emitted_of_guard :
    let state : WriteOnce Store := ⟨.empty, [(.interceptors "app", "")]⟩
    let round := Moved.pipeline.runRound (.writeOnce .memory) Moved.build Moved.table state
    (∀ decl ∈ Moved.table.declarations, decl.IsPlain) ∧
      (Moved.pipeline.roundOffer Moved.table {}).map GeneratedUnit.key = [.interceptors "app"] ∧
      FirstEmission Moved.pipeline Moved.table ∧ Moved.build.Reachable ∧
      (round.1.reports.map fun report => report.emitted.failed) =
        [[], [(.interceptors "app",
          .alreadyEmitted (UnitKey.interceptors "app").qualifiedName)], []] ∧
      LaterEmission Moved.pipeline Moved.build Moved.table state := by
  intro state round
  have plain : ∀ decl ∈ Moved.table.declarations, decl.IsPlain := by
    intro decl member
    have one : Moved.table.declarations = [Moved.guard] := by decide +kernel
    rw [one, List.mem_singleton] at member
    rw [member]
    exact ⟨by decide, by decide⟩
  obtain ⟨first, later⟩ := emitted_of_plain Moved.pipeline plain
  have offered : (Moved.pipeline.roundOffer Moved.table {}).map GeneratedUnit.key =
      [.interceptors "app"] := by
    rw [Pipeline.roundOffer, Moved.hookOffer_of_insert rfl]
    decide +kernel
  have refused : (Moved.pipeline.language.emit (.writeOnce .memory) state
      [(Moved.hooks 2).unit "app"]).report =
        { failed := [(.interceptors "app",
            .alreadyEmitted (UnitKey.interceptors "app").qualifiedName)] } := by
    obtain ⟨text, done⟩ : ∃ text, Language.kotlin.render ((Moved.hooks 2).unit "app") = .ok text :=
      ⟨_, rfl⟩
    have key : text.key = .interceptors "app" := (Language.render_eq_ok done).1
    have known : state.digest? text.key = some "" := by rw [key]; rfl
    rw [Language.report_emit_cons]
    rw [show Moved.pipeline.language = .kotlin from rfl, Language.emitUnit_of_ok _ done]
    rw [Sink.write_known known, if_neg (Text.Digest.ofText_ne_empty _).symm, key]
    rfl
  have failed : (round.1.reports.map Report.emitted).map EmitReport.failed =
      [[], [(.interceptors "app",
        .alreadyEmitted (UnitKey.interceptors "app").qualifiedName)], []] := by
    rw [Moved.emitted_reports, refused]
    rfl
  rw [List.map_map] at failed
  exact ⟨plain, offered, first, Moved.reachable_build, failed, later _ Moved.reachable_build _ _⟩

end RouteAtlas
