import RouteAtlas.Delivery
import RouteAtlas.Proofs.Sink.Local

/-! # States that a sink does not tell apart

A relation between the states of a sink that every write keeps, with the same answer from both, is
kept by a whole build: its outcomes are the same from related states, and leave related ones.
-/

namespace RouteAtlas

variable {σ : Type}

/-- Each unit meets the same fate in related states, and leaves them related. -/
def Sink.Respects (sink : Sink σ) (rel : σ → σ → Prop) : Prop :=
  ∀ (first second : σ) (unit : RenderedUnit), rel first second →
    (sink.write first unit).1 = (sink.write second unit).1 ∧
      rel (sink.write first unit).2 (sink.write second unit).2

/-- The states of a write-once sink that hold the same digests over related states. -/
structure WriteOnce.Over (rel : σ → σ → Prop) (first second : WriteOnce σ) : Prop where
  inner : rel first.inner second.inner
  digests : first.digests = second.digests

/-- Builds that have come to the same so far, over related states of a sink. -/
structure Session.Over (rel : σ → σ → Prop) (first second : Session σ) : Prop where
  build : first.build = second.build
  carry : first.carry = second.carry
  state : rel first.state second.state

variable {sink : Sink σ} {rel : σ → σ → Prop} (respects : sink.Respects rel)
include respects

theorem Sink.respects_writeOnce : (writeOnce sink).Respects (WriteOnce.Over rel) := by
  intro first second unit ⟨related, digests⟩
  have same : second.digest? unit.key = first.digest? unit.key := by
    rw [WriteOnce.digest?, WriteOnce.digest?, digests]
  cases found : first.digest? unit.key with
  | some known =>
      rw [found] at same
      rw [write_known found, write_known same]
      exact ⟨rfl, related, digests⟩
  | none =>
      rw [found] at same
      obtain ⟨answer, after⟩ := respects first.inner second.inner unit related
      rw [write_unknown found, write_unknown same, ← answer, digests]
      exact ⟨rfl, after, rfl⟩

section

variable {first second : σ} (related : rel first second)
include related

/-! What came of a part of a build is the same in every field but the state, and the states are
related. -/

theorem Language.emit_related (language : Language) (units : List GeneratedUnit) :
    ∃ after, language.emit sink second units =
        { language.emit sink first units with state := after } ∧
      rel (language.emit sink first units).state after := by
  induction units generalizing first second with
  | nil => exact ⟨second, rfl, related⟩
  | cons unit rest ih =>
      have fate : (language.emitUnit sink first unit).1 = (language.emitUnit sink second unit).1 ∧
          rel (language.emitUnit sink first unit).2 (language.emitUnit sink second unit).2 := by
        cases made : language.render unit with
        | error =>
            rw [emitUnit_of_error _ made, emitUnit_of_error _ made]
            exact ⟨rfl, related⟩
        | ok rendered =>
            rw [emitUnit_of_ok _ made, emitUnit_of_ok _ made]
            exact respects first second rendered related
      obtain ⟨after, others, last⟩ := ih fate.2
      refine ⟨after, ?_, last⟩
      simp only [emit_cons, others, fate.1]

namespace Pipeline

variable (pipeline : Pipeline)

theorem writeRoutes_related (before staged : RouteTable) (report : Report) :
    ∃ after, pipeline.writeRoutes sink before staged second report =
        { pipeline.writeRoutes sink before staged first report with state := after } ∧
      rel (pipeline.writeRoutes sink before staged first report).state after := by
  unfold writeRoutes
  cases pipeline.options.requireModuleName with
  | error => exact ⟨second, rfl, related⟩
  | ok module =>
      obtain ⟨after, emitted, last⟩ :=
        pipeline.language.emit_related respects related (staged.units module)
      refine ⟨after, ?_, ?_⟩ <;> simp only [emitted] <;> split <;> first | rfl | exact last

theorem runRoutes_related (table : SymbolTable) (routes : RouteTable) :
    ∃ after, pipeline.runRoutes sink table routes second =
        { pipeline.runRoutes sink table routes first with state := after } ∧
      rel (pipeline.runRoutes sink table routes first).state after := by
  unfold runRoutes
  dsimp only
  split
  · exact ⟨second, rfl, related⟩
  · split
    · obtain ⟨after, written, last⟩ := pipeline.writeRoutes_related respects related routes _ _
      exact ⟨after, by rw [written], last⟩
    · exact ⟨second, rfl, related⟩

theorem writeHooks_related (module : String) (before staged : HookTable) (report : Report) :
    ∃ after, pipeline.writeHooks sink module before staged second report =
        { pipeline.writeHooks sink module before staged first report with state := after } ∧
      rel (pipeline.writeHooks sink module before staged first report).state after := by
  unfold writeHooks
  obtain ⟨after, emitted, last⟩ :=
    pipeline.language.emit_related respects related [staged.unit module]
  refine ⟨after, ?_, ?_⟩ <;> simp only [emitted] <;> split <;> first | rfl | exact last

theorem runHooks_related (table : SymbolTable) (hooks : HookTable) :
    ∃ after, pipeline.runHooks sink table hooks second =
        { pipeline.runHooks sink table hooks first with state := after } ∧
      rel (pipeline.runHooks sink table hooks first).state after := by
  unfold runHooks
  dsimp only
  split
  · exact ⟨second, rfl, related⟩
  · cases pipeline.options.requireModuleName with
    | error => exact ⟨second, rfl, related⟩
    | ok module =>
        dsimp only
        split
        · exact ⟨second, rfl, related⟩
        · split
          · obtain ⟨after, written, last⟩ :=
              pipeline.writeHooks_related respects related module hooks _ _
            exact ⟨after, by rw [written], last⟩
          · exact ⟨second, rfl, related⟩

theorem runInjectors_related (table : SymbolTable) :
    ∃ after, pipeline.runInjectors sink table second =
        { pipeline.runInjectors sink table first with state := after } ∧
      rel (pipeline.runInjectors sink table first).state after := by
  unfold runInjectors
  dsimp only
  split
  · exact ⟨second, rfl, related⟩
  · cases SymbolTable.checkOwners (resolvedOnes table.owners) with
    | error => exact ⟨second, rfl, related⟩
    | ok =>
        obtain ⟨after, emitted, last⟩ := pipeline.language.emit_related respects related _
        exact ⟨after, by rw [emitted], last⟩

theorem flushRoutes_related (routes : RouteTable) :
    ∃ after, pipeline.flushRoutes sink routes second =
        { pipeline.flushRoutes sink routes first with state := after } ∧
      rel (pipeline.flushRoutes sink routes first).state after := by
  unfold flushRoutes
  split
  · exact ⟨second, rfl, related⟩
  · cases pipeline.options.requireModuleName with
    | error => exact ⟨second, rfl, related⟩
    | ok module =>
        obtain ⟨after, emitted, last⟩ := pipeline.language.emit_related respects related _
        exact ⟨after, by simp only [emitted], last⟩

theorem flushHooks_related (hooks : HookTable) :
    ∃ after, pipeline.flushHooks sink hooks second =
        { pipeline.flushHooks sink hooks first with state := after } ∧
      rel (pipeline.flushHooks sink hooks first).state after := by
  unfold flushHooks
  split
  · exact ⟨second, rfl, related⟩
  · cases pipeline.options.requireModuleName with
    | error => exact ⟨second, rfl, related⟩
    | ok module =>
        obtain ⟨after, emitted, last⟩ := pipeline.language.emit_related respects related _
        exact ⟨after, by simp only [emitted], last⟩

/-- A round comes to the same from related states. -/
theorem runRound_related (build : BuildState) (table : SymbolTable) :
    (pipeline.runRound sink build table first).1 =
        (pipeline.runRound sink build table second).1 ∧
      rel (pipeline.runRound sink build table first).2
        (pipeline.runRound sink build table second).2 := by
  obtain ⟨_, routes, afterRoutes⟩ :=
    pipeline.runRoutes_related respects related table build.routes
  obtain ⟨_, hooks, afterHooks⟩ :=
    pipeline.runHooks_related respects afterRoutes table build.hooks
  obtain ⟨_, injectors, last⟩ := pipeline.runInjectors_related respects afterHooks table
  simp only [runRound, routes, hooks, injectors]
  exact ⟨trivial, last⟩

/-- The end of a build comes to the same from related states. -/
theorem finish_related (build : BuildState) :
    (pipeline.finish sink build first).1 = (pipeline.finish sink build second).1 ∧
      rel (pipeline.finish sink build first).2 (pipeline.finish sink build second).2 := by
  obtain ⟨_, routes, afterRoutes⟩ := pipeline.flushRoutes_related respects related build.routes
  obtain ⟨_, hooks, last⟩ := pipeline.flushHooks_related respects afterRoutes build.hooks
  simp only [finish, routes, hooks]
  exact ⟨trivial, last⟩

end Pipeline

end

namespace Pipeline

variable (pipeline : Pipeline) {first second : Session σ} (paired : Session.Over rel first second)
include paired

theorem deliver_over (delivered : List Declaration) :
    (pipeline.deliver sink first delivered).1 = (pipeline.deliver sink second delivered).1 ∧
      Session.Over rel (pipeline.deliver sink first delivered).2
        (pipeline.deliver sink second delivered).2 := by
  obtain ⟨outcome, state⟩ := pipeline.runRound_related respects paired.state first.build
    (first.carry.table delivered)
  simp only [deliver, ← paired.build, ← paired.carry, ← outcome]
  exact ⟨trivial, rfl, rfl, state⟩

theorem conclude_over :
    (pipeline.conclude sink first).1 = (pipeline.conclude sink second).1 ∧
      Session.Over rel (pipeline.conclude sink first).2 (pipeline.conclude sink second).2 := by
  obtain ⟨outcome, state⟩ := pipeline.finish_related respects paired.state first.build
  simp only [conclude, ← paired.build, ← outcome]
  exact ⟨trivial, rfl, paired.carry, state⟩

end Pipeline

end RouteAtlas
