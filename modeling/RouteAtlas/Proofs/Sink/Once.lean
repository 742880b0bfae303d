import RouteAtlas.Proofs.Sink.Local

/-! # Writes through a write-once sink

A write-once sink stands before a sink that may refuse anything. Of each name one unit passes, and
from then on the sink behind is not asked for that name any more. What it refuses leaves no trace.
-/

namespace RouteAtlas

/-- A unit that a sink was asked to write, and what it said. -/
abbrev Attempt := RenderedUnit × Except BuildError WriteStatus

namespace Attempt

/-- Whether a unit of a certain name passed. -/
def passes (key : UnitKey) (attempt : Attempt) : Bool :=
  decide (attempt.1.key = key) && attempt.2.isOk

/-- The unit that passed first under a name. -/
def passed? (attempts : List Attempt) (key : UnitKey) : Option RenderedUnit :=
  (attempts.find? (passes key)).map Prod.fst

/-- Once a unit has passed, no other one of its name is tried. -/
def Settled (attempts : List Attempt) : Prop :=
  attempts.Pairwise fun first later => first.2.isOk = true → later.1.key ≠ first.1.key

variable {attempts : List Attempt} {unit : RenderedUnit} {key : UnitKey}

theorem passed?_concat (attempts : List Attempt) (unit : RenderedUnit)
    (answer : Except BuildError WriteStatus) (key : UnitKey) :
    passed? (attempts ++ [(unit, answer)]) key =
      (passed? attempts key).or
        (if unit.key = key ∧ answer.isOk = true then some unit else none) := by
  rw [passed?, List.find?_append, Option.map_or]
  congr 1
  by_cases here : unit.key = key ∧ answer.isOk = true
  · simp [passes, here]
  · rw [if_neg here, List.find?_eq_none.mpr (by simpa [passes] using here)]
    rfl

theorem isOk_eq_false_of_passed?_eq_none (none : passed? attempts key = none) {attempt : Attempt}
    (member : attempt ∈ attempts) (named : attempt.1.key = key) : attempt.2.isOk = false := by
  rw [passed?, Option.map_eq_none_iff, List.find?_eq_none] at none
  simpa [passes, named] using none attempt member

theorem Settled.concat (settled : Settled attempts) (none : passed? attempts unit.key = none)
    (answer : Except BuildError WriteStatus) : Settled (attempts ++ [(unit, answer)]) := by
  refine List.pairwise_append.mpr ⟨settled, List.pairwise_singleton _ _, ?_⟩
  intro first member last single passed same
  obtain rfl := List.mem_singleton.mp single
  rw [isOk_eq_false_of_passed?_eq_none none member same.symm] at passed
  cases passed

theorem Settled.countP_le (settled : Settled attempts) (key : UnitKey) :
    attempts.countP (passes key) ≤ 1 := by
  induction attempts with
  | nil => exact Nat.zero_le 1
  | cons first rest ih =>
      obtain ⟨others, settledRest⟩ := List.pairwise_cons.mp settled
      rw [List.countP_cons]
      split
      · rename_i here
        rw [passes, Bool.and_eq_true, decide_eq_true_eq] at here
        have nothing : rest.countP (passes key) = 0 := by
          refine List.countP_eq_zero.mpr fun attempt member => ?_
          have apart := others attempt member here.2
          simp [passes, here.1 ▸ apart]
        exact Nat.le_of_eq (congrArg (· + 1) nothing)
      · exact ih settledRest

end Attempt

/-- The state without what was noted about it. -/
def WriteOnce.forget {σ ν : Type} (state : WriteOnce (σ × ν)) : WriteOnce σ :=
  ⟨state.inner.1, state.digests⟩

/-- One write through a write-once sink. -/
structure Turn where
  unit : RenderedUnit
  answer : Except BuildError WriteStatus
  /-- What the sink behind was asked meanwhile. -/
  below : List Attempt
  /-- The digests that were known before. -/
  before : UnitKey → Option String
  /-- The digests that are known after. -/
  after : UnitKey → Option String

namespace Sink

variable {σ : Type}

/-- A sink that notes what it is asked and what it says. -/
def recorded (inner : Sink σ) : Sink (σ × List Attempt) where
  write state unit :=
    let (answer, after) := inner.write state.1 unit
    (answer, after, state.2 ++ [(unit, answer)])

/-- What a sink says to units that are written one after another. -/
def answers (sink : Sink σ) : σ → List RenderedUnit → List (Except BuildError WriteStatus)
  | _, [] => []
  | state, unit :: rest =>
    let (answer, after) := sink.write state unit
    answer :: sink.answers after rest

/-- The write of a unit through a write-once sink. -/
def turn (inner : Sink σ) (state : WriteOnce (σ × List Attempt)) (unit : RenderedUnit) : Turn :=
  let (answer, after) := (writeOnce inner.recorded).write state unit
  { unit
    answer
    below := after.inner.2.drop state.inner.2.length
    before := state.digest?
    after := after.digest? }

/-- The writes of units through a write-once sink, one after another. -/
def turns (inner : Sink σ) : WriteOnce (σ × List Attempt) → List RenderedUnit → List Turn
  | _, [] => []
  | state, unit :: rest =>
    inner.turn state unit :: inner.turns ((writeOnce inner.recorded).write state unit).2 rest

/-- What a write-once sink does with one unit, where the sink behind it was asked something
    before. -/
structure TurnLaw (attempts : List Attempt) (turn : Turn) : Prop where
  /-- As long as no unit of the name has passed, the sink behind decides. -/
  fresh : Attempt.passed? attempts turn.unit.key = none → turn.below = [(turn.unit, turn.answer)]
  /-- Once a unit of the name has passed, the sink behind is not asked. -/
  known : ∀ {first}, Attempt.passed? attempts turn.unit.key = some first →
    turn.below = [] ∧
      turn.answer =
        if Text.Digest.ofText turn.unit.source = Text.Digest.ofText first.source then .ok .unchanged
        else .error (.alreadyEmitted turn.unit.key.qualifiedName)
  /-- A refusal leaves no trace. -/
  refused : turn.answer.isOk = false → turn.after = turn.before
  /-- Under other names nothing changes. -/
  others : ∀ key, key ≠ turn.unit.key → turn.after key = turn.before key

/-- What holds of all writes through a write-once sink, from the first one on. -/
structure OnceLaw (inner : Sink σ) (start : σ) (units : List RenderedUnit) : Prop where
  written : (inner.turns ⟨(start, []), []⟩ units).map Turn.unit = units
  /-- Taking notes of what the sink behind is asked does not change what is said. -/
  answered : (inner.turns ⟨(start, []), []⟩ units).map Turn.answer =
    (writeOnce inner).answers ⟨start, []⟩ units
  turn : ∀ {earlier turn later}, inner.turns ⟨(start, []), []⟩ units = earlier ++ turn :: later →
    TurnLaw (earlier.flatMap Turn.below) turn
  /-- After a unit has passed, the sink behind is not asked for its name. -/
  settled : Attempt.Settled ((inner.turns ⟨(start, []), []⟩ units).flatMap Turn.below)
  /-- Under each name at most one unit passes. -/
  once : ∀ key, ((inner.turns ⟨(start, []), []⟩ units).flatMap Turn.below).countP
    (Attempt.passes key) ≤ 1

/-- The digests of a write-once sink are those of the units that passed. -/
structure Noted (state : WriteOnce (σ × List Attempt)) : Prop where
  digests : ∀ key, state.digest? key =
    (Attempt.passed? state.inner.2 key).map fun unit => Text.Digest.ofText unit.source
  settled : Attempt.Settled state.inner.2

section Write

variable {inner : Sink σ} {state : WriteOnce (σ × List Attempt)}

theorem noted_start (start : σ) : Noted (⟨(start, []), []⟩ : WriteOnce (σ × List Attempt)) :=
  ⟨fun _ => rfl, .nil⟩

theorem Noted.write_known (noted : Noted state) {unit first : RenderedUnit}
    (passed : Attempt.passed? state.inner.2 unit.key = some first) :
    (writeOnce inner.recorded).write state unit =
      (if Text.Digest.ofText unit.source = Text.Digest.ofText first.source then .ok .unchanged
        else .error (.alreadyEmitted unit.key.qualifiedName), state) := by
  have digest := noted.digests unit.key
  rw [passed, Option.map_some] at digest
  simp only [Sink.write_known digest, eq_comm]

theorem Noted.write_fresh (noted : Noted state) {unit : RenderedUnit}
    (none : Attempt.passed? state.inner.2 unit.key = none) :
    (writeOnce inner.recorded).write state unit =
      ((inner.write state.inner.1 unit).1,
        { inner := ((inner.write state.inner.1 unit).2,
            state.inner.2 ++ [(unit, (inner.write state.inner.1 unit).1)])
          digests := match (inner.write state.inner.1 unit).1 with
            | .ok _ => (unit.key, Text.Digest.ofText unit.source) :: state.digests
            | .error _ => state.digests }) := by
  have digest := noted.digests unit.key
  rw [none, Option.map_none] at digest
  exact write_unknown digest

/-- The digest that is known under a name after a unit was passed on. -/
theorem digest?_push (state : WriteOnce (σ × List Attempt)) (below : σ × List Attempt)
    (unit : RenderedUnit) (answer : Except BuildError WriteStatus) (key : UnitKey) :
    WriteOnce.digest? ⟨below, match answer with
        | .ok _ => (unit.key, Text.Digest.ofText unit.source) :: state.digests
        | .error _ => state.digests⟩ key =
      if key = unit.key ∧ answer.isOk = true then some (Text.Digest.ofText unit.source)
      else state.digest? key := by
  cases answer with
  | error error => simp [WriteOnce.digest?, Except.isOk, Except.toBool]
  | ok status =>
      by_cases here : key = unit.key
      · simp [WriteOnce.digest?, here, Except.isOk, Except.toBool]
      · have apart : (key == unit.key) = false := beq_eq_false_iff_ne.mpr here
        simp [WriteOnce.digest?, List.lookup_cons, apart, here]

theorem Noted.write (noted : Noted state) (unit : RenderedUnit) :
    Noted ((writeOnce inner.recorded).write state unit).2 := by
  cases passed : Attempt.passed? state.inner.2 unit.key with
  | some first =>
      rw [noted.write_known passed]
      exact noted
  | none =>
      rw [noted.write_fresh passed]
      refine ⟨fun key => ?_, noted.settled.concat passed _⟩
      rw [digest?_push, Attempt.passed?_concat, noted.digests key]
      by_cases here : key = unit.key
      · subst here
        rw [passed, Option.none_or]
        simp only [true_and]
        split <;> rfl
      · simp [here, Ne.symm here]

theorem unit_turn (state : WriteOnce (σ × List Attempt)) (unit : RenderedUnit) :
    (inner.turn state unit).unit = unit := rfl

/-- What was noted stays, and the turn tells what is new. -/
theorem notes_write (noted : Noted state) (unit : RenderedUnit) :
    ((writeOnce inner.recorded).write state unit).2.inner.2 =
      state.inner.2 ++ (inner.turn state unit).below := by
  rw [turn]
  cases passed : Attempt.passed? state.inner.2 unit.key with
  | some first => simp [noted.write_known passed]
  | none => simp [noted.write_fresh passed]

theorem turnLaw_write (noted : Noted state) (unit : RenderedUnit) :
    TurnLaw state.inner.2 (inner.turn state unit) := by
  cases passed : Attempt.passed? state.inner.2 unit.key with
  | some first =>
      rw [turn, noted.write_known passed]
      constructor
      case fresh => exact fun none => absurd (passed.symm.trans none) (Option.some_ne_none _)
      case known =>
        intro other found
        obtain rfl := Option.some.inj (passed.symm.trans found)
        dsimp only
        exact ⟨List.drop_length, rfl⟩
      case refused => exact fun _ => rfl
      case others => exact fun _ _ => rfl
  | none =>
      -- The digests grow by that of the unit if the sink behind takes it, and stay otherwise.
      have after (key : UnitKey) : (inner.turn state unit).after key =
          if key = unit.key ∧ (inner.turn state unit).answer.isOk = true
            then some (Text.Digest.ofText unit.source)
            else state.digest? key := by
        rw [turn, noted.write_fresh passed]
        exact digest?_push state _ unit _ key
      constructor
      case fresh =>
        rw [turn, noted.write_fresh passed]
        exact fun _ => List.drop_left
      case known =>
        intro first found
        rw [unit_turn, passed] at found
        cases found
      case refused =>
        intro refusal
        funext key
        rw [after, if_neg fun taken => absurd (taken.2.symm.trans refusal) Bool.true_eq_false.mp]
        rfl
      case others =>
        intro key apart
        rw [after, if_neg fun taken => apart taken.1]
        rfl

end Write

section Run

variable (inner : Sink σ)

theorem forget_write (state : WriteOnce (σ × List Attempt)) (unit : RenderedUnit) :
    (writeOnce inner).write state.forget unit =
      (((writeOnce inner.recorded).write state unit).1,
        ((writeOnce inner.recorded).write state unit).2.forget) := by
  cases found : state.digest? unit.key with
  | some known =>
      have same : state.forget.digest? unit.key = some known := found
      rw [write_known found, write_known same]
  | none =>
      have same : state.forget.digest? unit.key = none := found
      rw [write_unknown found, write_unknown same]
      rfl

theorem unit_turns (state : WriteOnce (σ × List Attempt)) (units : List RenderedUnit) :
    (inner.turns state units).map Turn.unit = units := by
  induction units generalizing state with
  | nil => rfl
  | cons unit rest ih => exact congrArg (unit :: ·) (ih _)

theorem answer_turns (state : WriteOnce (σ × List Attempt)) (units : List RenderedUnit) :
    (inner.turns state units).map Turn.answer = (writeOnce inner).answers state.forget units := by
  induction units generalizing state with
  | nil => rfl
  | cons unit rest ih =>
      rw [answers, forget_write]
      exact congrArg (_ :: ·) (ih _)

variable {inner} {state : WriteOnce (σ × List Attempt)}

/-- The notes at the end are those at the beginning and what the turns tell. -/
theorem settled_turns (noted : Noted state) (units : List RenderedUnit) :
    Attempt.Settled (state.inner.2 ++ (inner.turns state units).flatMap Turn.below) := by
  induction units generalizing state with
  | nil =>
      rw [turns, List.flatMap_nil, List.append_nil]
      exact noted.settled
  | cons unit rest ih =>
      rw [turns, List.flatMap_cons, ← List.append_assoc, ← notes_write noted unit]
      exact ih (noted.write unit)

theorem turnLaw_turns (noted : Noted state) {units : List RenderedUnit}
    {earlier later : List Turn} {turn : Turn}
    (split : inner.turns state units = earlier ++ turn :: later) :
    TurnLaw (state.inner.2 ++ earlier.flatMap Turn.below) turn := by
  induction units generalizing state earlier with
  | nil => exact absurd split (by simp [turns])
  | cons unit rest ih =>
      rw [turns] at split
      cases earlier with
      | nil =>
          rw [List.nil_append, List.cons.injEq] at split
          rw [List.flatMap_nil, List.append_nil, ← split.1]
          exact turnLaw_write noted unit
      | cons first others =>
          rw [List.cons_append, List.cons.injEq] at split
          rw [List.flatMap_cons, ← List.append_assoc, ← split.1, ← notes_write noted unit]
          exact ih (noted.write unit) split.2

end Run

/-- Whatever the sink behind refuses and whatever is written: each unit passes once, refusals can be
    repeated, and no name interferes with another. -/
theorem onceLaw_of_writes (inner : Sink σ) (start : σ) (units : List RenderedUnit) :
    OnceLaw inner start units where
  written := inner.unit_turns _ units
  answered := inner.answer_turns _ units
  turn := turnLaw_turns (noted_start start)
  settled := settled_turns (noted_start start) units
  once := (settled_turns (noted_start start) units).countP_le

end Sink

end RouteAtlas
