import RouteAtlas.Proofs.Sink.Digests
import RouteAtlas.Proofs.Unit.Owner

/-! # Sinks that keep units apart

What becomes of a unit in a sink may depend on what is stored at its path, but not on units at other
paths. Over such a sink a write-once sink treats the units of one processor the same way, whatever
those of the others were.
-/

namespace RouteAtlas

namespace Sink

variable {σ α : Type}

/-- A sink keeps units apart, where `held` is what is stored at a path. -/
structure Local (inner : Sink σ) (held : σ → String → α) : Prop where
  /-- What becomes of a unit depends on what is stored at its path. -/
  write : ∀ {state other : σ} {unit : RenderedUnit}, held state unit.path = held other unit.path →
    (inner.write state unit).1 = (inner.write other unit).1 ∧
      held (inner.write state unit).2 unit.path = held (inner.write other unit).2 unit.path
  /-- What is stored at other paths stays. -/
  frame : ∀ {state : σ} {unit : RenderedUnit} {path : String}, path ≠ unit.path →
    held (inner.write state unit).2 path = held state path

theorem local_memory : memory.Local fun store path => store.get? path where
  write := fun _ => ⟨rfl, by simp [memory]⟩
  frame := fun apart => by simp only [memory, SortedMap.get?_insert, if_neg apart]

section Refusing

variable {inner : Sink σ} {held : σ → String → α}

theorem Local.refusing (isolated : inner.Local held) (reason? : UnitKey → Option String) :
    (Sink.refusing reason? inner).Local held where
  write := by
    intro state other unit same
    simp only [Sink.refusing]
    cases reason? unit.key with
    | some reason => exact ⟨rfl, same⟩
    | none => exact isolated.write same
  frame := by
    intro state unit path apart
    simp only [Sink.refusing]
    cases reason? unit.key with
    | some reason => rfl
    | none => exact isolated.frame apart

end Refusing

/-- A unit whose name is new goes to the inner sink, and is remembered unless it is refused. -/
theorem write_unknown {inner : Sink σ} {state : WriteOnce σ} {unit : RenderedUnit}
    (absent : state.digest? unit.key = none) :
    (writeOnce inner).write state unit =
      ((inner.write state.inner unit).1,
        { inner := (inner.write state.inner unit).2
          digests := match (inner.write state.inner unit).1 with
            | .ok _ => (unit.key, Text.Digest.ofText unit.source) :: state.digests
            | .error _ => state.digests }) := by
  rw [WriteOnce.digest?] at absent
  simp only [writeOnce, absent]
  rcases inner.write state.inner unit with ⟨error | status, after⟩ <;> rfl

end Sink

/-- Two states of a write-once sink do not differ in the units that a processor makes in a
    language. -/
structure WriteOnce.AgreeOn {σ α : Type} (held : σ → String → α) (language : Language)
    (processor : Processor) (first second : WriteOnce σ) : Prop where
  digests : ∀ key, processor.Owns key → first.digest? key = second.digest? key
  held : ∀ key, processor.Owns key →
    held first.inner (key.path language.extension) = held second.inner (key.path language.extension)

namespace WriteOnce.AgreeOn

variable {σ α : Type} {held : σ → String → α} {language : Language} {processor : Processor}
  {first second : WriteOnce σ}

theorem refl (state : WriteOnce σ) : AgreeOn held language processor state state :=
  ⟨fun _ _ => rfl, fun _ _ => rfl⟩

theorem symm (agree : AgreeOn held language processor first second) :
    AgreeOn held language processor second first :=
  ⟨fun key owns => (agree.digests key owns).symm, fun key owns => (agree.held key owns).symm⟩

variable {inner : Sink σ} (isolated : inner.Local held)
include isolated

section Write

variable (agree : AgreeOn held language processor first second) {unit : RenderedUnit}
  (placed : unit.path = unit.key.path language.extension)
include agree placed

/-- A unit of the processor meets the same fate in both states. -/
theorem write_own (owns : processor.Owns unit.key) :
    ((Sink.writeOnce inner).write first unit).1 = ((Sink.writeOnce inner).write second unit).1 ∧
      AgreeOn held language processor ((Sink.writeOnce inner).write first unit).2
        ((Sink.writeOnce inner).write second unit).2 := by
  have digests := agree.digests unit.key owns
  have stored := agree.held unit.key owns
  rw [← placed] at stored
  cases found : first.digest? unit.key with
  | some known =>
      rw [found] at digests
      rw [Sink.write_known found, Sink.write_known digests.symm]
      exact ⟨rfl, agree⟩
  | none =>
      rw [found] at digests
      obtain ⟨answer, here⟩ := isolated.write stored
      rw [Sink.write_unknown found, Sink.write_unknown digests.symm, ← answer]
      refine ⟨rfl, ?_, ?_⟩
      · intro key ownsKey
        have same := agree.digests key ownsKey
        simp only [digest?] at same ⊢
        cases (inner.write first.inner unit).1 with
        | error => exact same
        | ok => simp only [List.lookup_cons, same]
      · intro key ownsKey
        by_cases path : key.path language.extension = unit.path
        · rw [path]
          exact here
        · rw [isolated.frame path, isolated.frame path]
          exact agree.held key ownsKey

/-- A unit of another processor changes nothing in what both states agree on. -/
theorem write_other {other : Processor} (apart : processor ≠ other) (owns : other.Owns unit.key) :
    AgreeOn held language processor ((Sink.writeOnce inner).write first unit).2 second := by
  have paths : ∀ key, processor.Owns key → key.path language.extension ≠ unit.path := by
    intro key ownsKey
    rw [placed]
    exact Processor.path_ne ownsKey owns apart language
  cases found : first.digest? unit.key with
  | some known =>
      rw [Sink.write_known found]
      exact agree
  | none =>
      rw [Sink.write_unknown found]
      constructor
      · intro key ownsKey
        rw [← agree.digests key ownsKey]
        have names : (key == unit.key) = false := by
          rw [beq_eq_false_iff_ne]
          rintro rfl
          exact paths _ ownsKey placed.symm
        simp only [digest?]
        cases (inner.write first.inner unit).1 with
        | error => rfl
        | ok => simp only [List.lookup_cons, names]
      · intro key ownsKey
        rw [← agree.held key ownsKey]
        exact isolated.frame (paths key ownsKey)

end Write

section Emit

theorem emitUnit_own (agree : AgreeOn held language processor first second) {unit : GeneratedUnit}
    (owns : processor.Owns unit.key) :
    (language.emitUnit (.writeOnce inner) first unit).1 =
        (language.emitUnit (.writeOnce inner) second unit).1 ∧
      AgreeOn held language processor (language.emitUnit (.writeOnce inner) first unit).2
        (language.emitUnit (.writeOnce inner) second unit).2 := by
  cases made : language.render unit with
  | error =>
      rw [Language.emitUnit_of_error _ made, Language.emitUnit_of_error _ made]
      exact ⟨rfl, agree⟩
  | ok rendered =>
      obtain ⟨key, path, -⟩ := Language.render_eq_ok made
      rw [← key] at owns path
      rw [Language.emitUnit_of_ok _ made, Language.emitUnit_of_ok _ made]
      exact agree.write_own isolated path owns

/-- The units of the processor are reported the same way from both states. -/
theorem emit_own (agree : AgreeOn held language processor first second)
    {units : List GeneratedUnit} (own : ∀ unit ∈ units, processor.Owns unit.key) :
    (language.emit (.writeOnce inner) first units).report =
        (language.emit (.writeOnce inner) second units).report ∧
      AgreeOn held language processor (language.emit (.writeOnce inner) first units).state
        (language.emit (.writeOnce inner) second units).state := by
  induction units generalizing first second with
  | nil => exact ⟨rfl, agree⟩
  | cons unit rest ih =>
      obtain ⟨fate, after⟩ := emitUnit_own isolated agree (own unit List.mem_cons_self)
      obtain ⟨report, last⟩ := ih after fun other later => own other (List.mem_cons_of_mem _ later)
      rw [Language.report_emit_cons, Language.report_emit_cons, fate, report]
      exact ⟨rfl, last⟩

variable {other : Processor} (apart : processor ≠ other)
  (agree : AgreeOn held language processor first second)
include apart agree

/-- The units of another processor change nothing in what both states agree on. -/
theorem emit_other {units : List GeneratedUnit} (foreign : ∀ unit ∈ units, other.Owns unit.key) :
    AgreeOn held language processor (language.emit (.writeOnce inner) first units).state
      second := by
  induction units generalizing first with
  | nil => exact agree
  | cons unit rest ih =>
      have owns := foreign unit List.mem_cons_self
      rw [Language.state_emit_cons]
      apply ih _ fun next later => foreign next (List.mem_cons_of_mem _ later)
      cases made : language.render unit with
      | error =>
          rw [Language.emitUnit_of_error _ made]
          exact agree
      | ok rendered =>
          obtain ⟨key, path, -⟩ := Language.render_eq_ok made
          rw [← key] at owns path
          rw [Language.emitUnit_of_ok _ made]
          exact agree.write_other isolated path apart owns

theorem emit_others {units others : List GeneratedUnit}
    (foreign : ∀ unit ∈ units, other.Owns unit.key)
    (otherForeign : ∀ unit ∈ others, other.Owns unit.key) :
    AgreeOn held language processor (language.emit (.writeOnce inner) first units).state
      (language.emit (.writeOnce inner) second others).state :=
  ((agree.emit_other isolated apart foreign).symm.emit_other isolated apart otherForeign).symm

end Emit

end WriteOnce.AgreeOn

end RouteAtlas
