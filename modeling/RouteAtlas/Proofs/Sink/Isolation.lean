import RouteAtlas.Proofs.Diagnostic
import RouteAtlas.Proofs.Sink.Local

/-! # Failures that concern one unit

Units are emitted one after another through a write-once sink. What becomes of one of them, and what
is stored of it in the end, does not depend on which of the others fail, be it that they cannot be
rendered, that they are refused or that they were written before.
-/

namespace RouteAtlas

variable {σ : Type}

section Report

namespace EmitReport

variable {report other : EmitReport} {keys others : List UnitKey}

/-- A report tells of units with certain names: of each one in one place, and in their order. -/
structure Lists (report : EmitReport) (keys : List UnitKey) : Prop where
  all : (report.written ++ report.unchanged ++ report.failed.map Prod.fst).Perm keys
  written : report.written.Sublist keys
  unchanged : report.unchanged.Sublist keys
  failed : (report.failed.map Prod.fst).Sublist keys

theorem lists_empty : Lists {} [] :=
  ⟨.refl [], .refl [], .refl [], .refl []⟩

theorem lists_ofResult (key : UnitKey) (answer : Except BuildError WriteStatus) :
    (ofResult key answer).Lists [key] := by
  rcases answer with error | (_ | _)
  · exact ⟨.refl [key], List.nil_sublist _, List.nil_sublist _, .refl [key]⟩
  · exact ⟨.refl [key], .refl [key], List.nil_sublist _, List.nil_sublist _⟩
  · exact ⟨.refl [key], List.nil_sublist _, .refl [key], List.nil_sublist _⟩

theorem Lists.append (here : report.Lists keys) (there : other.Lists others) :
    (report ++ other).Lists (keys ++ others) where
  all := by
    change (report.written ++ other.written ++ (report.unchanged ++ other.unchanged) ++
      (report.failed ++ other.failed).map Prod.fst).Perm (keys ++ others)
    refine List.perm_iff_count.mpr fun key => ?_
    have first := here.all.count_eq key
    have second := there.all.count_eq key
    simp only [List.count_append, List.map_append] at first second ⊢
    omega
  written := here.written.append there.written
  unchanged := here.unchanged.append there.unchanged
  failed := by
    change ((report.failed ++ other.failed).map Prod.fst).Sublist (keys ++ others)
    rw [List.map_append]
    exact here.failed.append there.failed

/-- What a report tells of some units. -/
def only (keep : UnitKey → Bool) (report : EmitReport) : EmitReport where
  written := report.written.filter keep
  unchanged := report.unchanged.filter keep
  failed := report.failed.filter fun entry => keep entry.1

theorem only_append (keep : UnitKey → Bool) (first second : EmitReport) :
    (first ++ second).only keep = first.only keep ++ second.only keep := by
  change EmitReport.mk _ _ _ = EmitReport.mk _ _ _
  rw [EmitReport.mk.injEq]
  exact ⟨List.filter_append .., List.filter_append .., List.filter_append ..⟩

theorem only_ofResult {keep : UnitKey → Bool} {key : UnitKey} (left : keep key = false)
    (answer : Except BuildError WriteStatus) : (ofResult key answer).only keep = {} := by
  rcases answer with error | (_ | _) <;> simp [ofResult, only, left]

end EmitReport

/-- A log tells which units failed, and which ones were written. -/
structure Diagnostics.Tells (log : Diagnostics) (units : List GeneratedUnit) (report : EmitReport) :
    Prop where
  failed : ∀ {key error}, (key, error) ∈ report.failed →
    ⟨.error, error.message, some key.qualifiedName⟩ ∈ log
  written : ∀ key ∈ report.written, ∃ unit ∈ units, unit.key = key ∧
    ⟨.info, progress (unit.body.label ++ " " ++ key.qualifiedName ++ " has been generated."), none⟩
      ∈ log

namespace Diagnostics.Tells

variable {log said : Diagnostics} {units others : List GeneratedUnit} {report other : EmitReport}

theorem empty : Tells [] [] {} :=
  ⟨fun nothing => absurd nothing List.not_mem_nil, fun _ nothing => absurd nothing List.not_mem_nil⟩

theorem ofResult (unit : GeneratedUnit) (answer : Except BuildError WriteStatus) :
    Tells (unit.log answer) [unit] (.ofResult unit.key answer) := by
  rcases answer with error | (_ | _) <;> constructor <;>
    simp [EmitReport.ofResult, GeneratedUnit.log, Diagnostics.report_eq, Diagnostics.info_progress]

theorem append (here : Tells log units report) (there : Tells said others other) :
    Tells (log ++ said) (units ++ others) (report ++ other) where
  failed := by
    intro key error member
    rcases List.mem_append.mp member with first | second
    · exact List.mem_append_left _ (here.failed first)
    · exact List.mem_append_right _ (there.failed second)
  written := by
    intro key member
    rcases List.mem_append.mp member with first | second
    · obtain ⟨unit, given, named, told⟩ := here.written key first
      exact ⟨unit, List.mem_append_left _ given, named, List.mem_append_left _ told⟩
    · obtain ⟨unit, given, named, told⟩ := there.written key second
      exact ⟨unit, List.mem_append_right _ given, named, List.mem_append_right _ told⟩

end Diagnostics.Tells

end Report

namespace Backend

variable {backend : Backend} {sink : Sink σ} {state : σ}

theorem lists_emit (units : List GeneratedUnit) :
    (backend.emit sink state units).report.Lists (units.map GeneratedUnit.key) := by
  induction units generalizing state with
  | nil => exact EmitReport.lists_empty
  | cons unit rest ih => exact (EmitReport.lists_ofResult unit.key _).append ih

theorem tells_emit (units : List GeneratedUnit) :
    (backend.emit sink state units).log.Tells units (backend.emit sink state units).report := by
  induction units generalizing state with
  | nil => exact Diagnostics.Tells.empty
  | cons unit rest ih => exact (Diagnostics.Tells.ofResult unit _).append ih

end Backend

/-- A sink keeps units by path, except for those whose names it refuses. -/
structure Sink.Refuses (inner : Sink Store) (refused : UnitKey → Bool) : Prop where
  refuses : ∀ (store : Store) (unit : RenderedUnit), refused unit.key = true →
    ∃ error, inner.write store unit = (.error error, store)
  keeps : ∀ (store : Store) (unit : RenderedUnit), refused unit.key = false →
    inner.write store unit = memory.write store unit

theorem Sink.refuses_memory : memory.Refuses fun _ => false where
  refuses := fun _ _ never => absurd never Bool.false_ne_true
  keeps := fun _ _ _ => rfl

theorem Sink.refuses_refusing (reason? : UnitKey → Option String) :
    (refusing reason? memory).Refuses fun key => (reason? key).isSome where
  refuses := by
    intro store unit refusal
    obtain ⟨reason, refused⟩ := Option.isSome_iff_exists.mp refusal
    exact ⟨.sink unit.key.qualifiedName reason, by simp only [refusing, refused]⟩
  keeps := by
    intro store unit admitted
    have admitted : reason? unit.key = none := by simpa using admitted
    simp only [refusing, admitted]

/-- Two states of write-once sinks do not differ in what concerns one unit. -/
structure WriteOnce.Alike (extension : String) (key : UnitKey) (first second : WriteOnce Store) :
    Prop where
  digest : first.digest? key = second.digest? key
  stored : first.inner.get? (key.path extension) = second.inner.get? (key.path extension)

namespace WriteOnce.Alike

variable {extension : String} {key : UnitKey} {first second third : WriteOnce Store}

theorem refl (state : WriteOnce Store) : Alike extension key state state :=
  ⟨rfl, rfl⟩

theorem symm (alike : Alike extension key first second) : Alike extension key second first :=
  ⟨alike.digest.symm, alike.stored.symm⟩

theorem trans (here : Alike extension key first second) (there : Alike extension key second third) :
    Alike extension key first third :=
  ⟨here.digest.trans there.digest, here.stored.trans there.stored⟩

end WriteOnce.Alike

section Write

open WriteOnce

variable {inner : Sink Store} {refused : UnitKey → Bool} {extension : String} {key : UnitKey}
  {unit : RenderedUnit} {first second state : WriteOnce Store}

/-- A write does not concern units with other paths. -/
theorem Sink.Refuses.write_other (refuses : inner.Refuses refused)
    (placed : unit.path = unit.key.path extension)
    (apart : key.path extension ≠ unit.key.path extension) :
    Alike extension key ((Sink.writeOnce inner).write state unit).2 state := by
  have names : (key == unit.key) = false :=
    beq_eq_false_iff_ne.mpr fun same => apart (congrArg (UnitKey.path · extension) same)
  cases found : state.digest? unit.key with
  | some known =>
      rw [Sink.write_known found]
      exact .refl state
  | none =>
      rw [Sink.write_unknown found]
      cases admitted : refused unit.key with
      | true =>
          obtain ⟨error, answer⟩ := refuses.refuses state.inner unit admitted
          rw [answer]
          exact .refl state
      | false =>
          rw [refuses.keeps state.inner unit admitted]
          constructor
          · simp only [Sink.memory, digest?, List.lookup_cons, names]
          · simp only [Sink.memory, SortedMap.get?_insert, placed, if_neg apart]

/-- A unit that is not refused meets the same fate as if none were. -/
theorem Sink.Refuses.write_own (refuses : inner.Refuses refused)
    (admitted : refused unit.key = false) (placed : unit.path = unit.key.path extension)
    (alike : Alike extension unit.key first second) :
    ((Sink.writeOnce inner).write first unit).1 = ((Sink.writeOnce .memory).write second unit).1 ∧
      Alike extension unit.key ((Sink.writeOnce inner).write first unit).2
        ((Sink.writeOnce .memory).write second unit).2 := by
  have digest := alike.digest
  cases found : first.digest? unit.key with
  | some known =>
      rw [found] at digest
      rw [Sink.write_known found, Sink.write_known digest.symm]
      exact ⟨rfl, alike⟩
  | none =>
      rw [found] at digest
      rw [Sink.write_unknown found, Sink.write_unknown digest.symm, refuses.keeps _ unit admitted]
      refine ⟨rfl, ?_, ?_⟩
      · simp only [Sink.memory, digest?, List.lookup_cons_self]
      · simp only [Sink.memory, ← placed, SortedMap.get?_insert_self]

end Write

namespace Backend

open WriteOnce

variable {backend : Backend} {inner : Sink Store} {refused : UnitKey → Bool} {key : UnitKey}
  {unit : GeneratedUnit} {units : List GeneratedUnit} {first second state : WriteOnce Store}

section Step

theorem emitUnit_other (refuses : inner.Refuses refused)
    (apart : key.path backend.extension ≠ unit.key.path backend.extension) :
    Alike backend.extension key (backend.emitUnit (.writeOnce inner) state unit).2 state := by
  cases made : backend.render unit with
  | error =>
      rw [emitUnit_of_error _ made]
      exact .refl state
  | ok rendered =>
      obtain ⟨named, placed, -⟩ := render_eq_ok made
      rw [← named] at placed apart
      rw [emitUnit_of_ok _ made]
      exact refuses.write_other placed apart

theorem emitUnit_own (refuses : inner.Refuses refused) (admitted : refused unit.key = false)
    (alike : Alike backend.extension unit.key first second) :
    (backend.emitUnit (.writeOnce inner) first unit).1 =
        (backend.emitUnit (.writeOnce .memory) second unit).1 ∧
      Alike backend.extension unit.key (backend.emitUnit (.writeOnce inner) first unit).2
        (backend.emitUnit (.writeOnce .memory) second unit).2 := by
  cases made : backend.render unit with
  | error =>
      rw [emitUnit_of_error _ made, emitUnit_of_error _ made]
      exact ⟨rfl, alike⟩
  | ok rendered =>
      obtain ⟨named, placed, -⟩ := render_eq_ok made
      rw [emitUnit_of_ok _ made, emitUnit_of_ok _ made]
      rw [← named] at placed admitted alike ⊢
      exact refuses.write_own admitted placed alike

end Step

/-- An emission does not concern units with other paths. -/
theorem emit_other (refuses : inner.Refuses refused)
    (apart : ∀ unit ∈ units, key.path backend.extension ≠ unit.key.path backend.extension) :
    Alike backend.extension key (backend.emit (.writeOnce inner) state units).state state := by
  induction units generalizing state with
  | nil => exact .refl state
  | cons unit rest ih =>
      rw [state_emit_cons]
      have here : Alike backend.extension key (backend.emitUnit (.writeOnce inner) state unit).2
          state := emitUnit_other refuses (apart unit List.mem_cons_self)
      exact (ih fun other later => apart other (List.mem_cons_of_mem _ later)).trans here

/-- Emissions that begin alike for each unit which is not refused are alike for them in the end, and
    report them the same way. -/
theorem emit_own (refuses : inner.Refuses refused)
    (distinct : (units.map fun unit => unit.key.path backend.extension).Nodup)
    (alike : ∀ unit ∈ units, refused unit.key = false →
      Alike backend.extension unit.key first second) :
    ((backend.emit (.writeOnce inner) first units).report.only fun key => !refused key) =
        ((backend.emit (.writeOnce .memory) second units).report.only fun key => !refused key) ∧
      ∀ unit ∈ units, refused unit.key = false →
        Alike backend.extension unit.key (backend.emit (.writeOnce inner) first units).state
          (backend.emit (.writeOnce .memory) second units).state := by
  induction units generalizing first second with
  | nil => exact ⟨rfl, fun _ nothing => absurd nothing List.not_mem_nil⟩
  | cons unit rest ih =>
      rw [List.map_cons, List.nodup_cons] at distinct
      have apart : ∀ other ∈ rest,
          unit.key.path backend.extension ≠ other.key.path backend.extension :=
        fun other later same => distinct.1 (same ▸ List.mem_map_of_mem later)
      have begun : ∀ other ∈ rest, refused other.key = false → Alike backend.extension other.key
          (backend.emitUnit (.writeOnce inner) first unit).2
          (backend.emitUnit (.writeOnce .memory) second unit).2 :=
        fun other later admitted =>
          ((emitUnit_other refuses (apart other later).symm).trans
            (alike other (List.mem_cons_of_mem _ later) admitted)).trans
              (emitUnit_other Sink.refuses_memory (apart other later).symm).symm
      obtain ⟨reports, states⟩ := ih distinct.2 begun
      rw [report_emit_cons, report_emit_cons, EmitReport.only_append, EmitReport.only_append,
        reports, state_emit_cons, state_emit_cons]
      constructor
      · cases admitted : refused unit.key with
        | true =>
            have left : (!refused unit.key) = false := by rw [admitted]; rfl
            rw [EmitReport.only_ofResult left, EmitReport.only_ofResult left]
        | false => rw [(emitUnit_own refuses admitted (alike unit List.mem_cons_self admitted)).1]
      · intro other member admitted
        rcases List.mem_cons.mp member with rfl | later
        · -- What comes after the unit does not concern it in either emission.
          have here := (emitUnit_own refuses admitted (alike _ List.mem_cons_self admitted)).2
          exact ((emit_other refuses apart).trans here).trans
            (emit_other Sink.refuses_memory apart).symm
        · exact states other later admitted

end Backend

/-- An emission in which some units may be refused, beside the one in which none is. -/
structure Isolated (extension : String) (units : List GeneratedUnit) (refused : UnitKey → Bool)
    (emission undisturbed : Emission (WriteOnce Store)) : Prop where
  lists : emission.report.Lists (units.map GeneratedUnit.key)
  once : (emission.report.written ++ emission.report.unchanged ++
    emission.report.failed.map Prod.fst).Nodup
  /-- The units that are not refused are reported as if none were. -/
  status : (emission.report.only fun key => !refused key) =
    undisturbed.report.only fun key => !refused key
  stored : ∀ unit ∈ units, refused unit.key = false →
    emission.state.inner.get? (unit.key.path extension) =
      undisturbed.state.inner.get? (unit.key.path extension)
  tells : emission.log.Tells units emission.report

/-- Units with different paths are emitted as if each were alone, whatever can be rendered and
    whatever is refused. -/
theorem Backend.isolated_of_refuses (backend : Backend) {inner : Sink Store}
    {refused : UnitKey → Bool} (refuses : inner.Refuses refused) (state : WriteOnce Store)
    {units : List GeneratedUnit}
    (distinct : (units.map fun unit => unit.key.path backend.extension).Nodup) :
    Isolated backend.extension units refused (backend.emit (.writeOnce inner) state units)
        (backend.emit (.writeOnce .memory) state units) ∧
      ∀ language : Language, language.backend = backend →
        Isolated language.extension units refused (language.emit (.writeOnce inner) state units)
          (language.emit (.writeOnce .memory) state units) := by
  have isolated : Isolated backend.extension units refused
      (backend.emit (.writeOnce inner) state units)
      (backend.emit (.writeOnce .memory) state units) := by
    obtain ⟨status, alike⟩ := emit_own refuses distinct fun unit _ _ => .refl state
    have names : (units.map GeneratedUnit.key).Nodup := by
      refine List.Nodup.of_map (UnitKey.path · backend.extension) ?_
      rwa [List.map_map]
    constructor
    case lists => exact backend.lists_emit units
    case once => exact (backend.lists_emit units).all.nodup_iff.mpr names
    case status => exact status
    case stored => exact fun unit member admitted => (alike unit member admitted).stored
    case tells => exact backend.tells_emit units
  refine ⟨isolated, ?_⟩
  rintro language rfl
  exact isolated

/-- A group that is refused and one that cannot be rendered leave the table of the groups alone. -/
theorem isolated_between_failures :
    let reason? : UnitKey → Option String :=
      fun key => if key = .group "main" then some "disk full" else none
    let units : List GeneratedUnit :=
      [⟨.group "main", .group "main" [], []⟩, ⟨.group "late", .group "user-center" [], []⟩,
        ⟨.root "app", .root [("main", .group "main")], []⟩]
    let sink := Sink.writeOnce (.refusing reason? .memory)
    let emission := Language.kotlin.emit sink ⟨.empty, []⟩ units
    (Sink.refusing reason? .memory).Refuses (fun key => (reason? key).isSome) ∧
      (units.map fun unit => unit.key.path "kt").Nodup ∧
      Isolated "kt" units (fun key => (reason? key).isSome) emission
        (Language.kotlin.emit (.writeOnce .memory) ⟨.empty, []⟩ units) ∧
      emission.report.written = [.root "app"] ∧
      emission.report.failed.map Prod.fst = [.group "main", .group "late"] :=
  ⟨Sink.refuses_refusing _, by decide +kernel,
    (Language.kotlin.backend.isolated_of_refuses (Sink.refuses_refusing _) ⟨.empty, []⟩
      (by decide +kernel)).2 .kotlin rfl, by decide +kernel, by decide +kernel⟩

end RouteAtlas
