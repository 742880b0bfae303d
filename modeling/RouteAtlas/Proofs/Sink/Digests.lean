import RouteAtlas.Proofs.Ledger

/-! # What a write-once sink remembers

After units were offered to a write-once sink, the digests that it remembers tell which of them
passed. Names that the sink below refuses leave no digest, so they may be offered again.
-/

namespace RouteAtlas

namespace Sink

variable {σ : Type}

/-- Each unit is written once, unless its name is one of those that are refused below. -/
def guarded (reason? : UnitKey → Option String) (inner : Sink σ) : Sink (WriteOnce σ) :=
  .writeOnce (.refusing reason? inner)

theorem guarded_none (inner : Sink σ) : guarded (fun _ => none) inner = .writeOnce inner := rfl

section Guarded

variable {reason? : UnitKey → Option String} {inner : Sink σ} {state : WriteOnce σ}
  {unit : RenderedUnit}

theorem write_refused (absent : state.digest? unit.key = none) {reason : String}
    (refused : reason? unit.key = some reason) :
    (guarded reason? inner).write state unit =
      (.error (.sink unit.key.qualifiedName reason), state) := by
  rw [WriteOnce.digest?] at absent
  simp only [guarded, writeOnce, refusing, absent, refused]

theorem write_fresh (accepts : inner.Accepts) (absent : state.digest? unit.key = none)
    (admitted : reason? unit.key = none) :
    ∃ status, (guarded reason? inner).write state unit =
      (.ok status, ⟨(inner.write state.inner unit).2,
        (unit.key, Text.Digest.ofText unit.source) :: state.digests⟩) := by
  obtain ⟨status, written⟩ := accepts state.inner unit
  have below : (refusing reason? inner).write state.inner unit = inner.write state.inner unit := by
    simp only [refusing, admitted]
  refine ⟨status, ?_⟩
  rw [guarded, write_new absent (by rw [below, written]), below]

/-- The digest that writing a unit leaves under a name that had none. -/
def digestOf? (reason? : UnitKey → Option String) (units : List RenderedUnit) (key : UnitKey) :
    Option String :=
  if (reason? key).isSome then none
  else (Ledger.find units key).map fun unit => Text.Digest.ofText unit.source

variable {units : List RenderedUnit} {key : UnitKey}

theorem digest?_write (accepts : inner.Accepts) (unit : RenderedUnit) (key : UnitKey) :
    ((guarded reason? inner).write state unit).2.digest? key =
      (state.digest? key).or (digestOf? reason? [unit] key) := by
  cases found : state.digest? unit.key with
  | some known =>
      rw [guarded, write_known found]
      by_cases here : unit.key = key
      · rw [← here, found, Option.some_or]
      · simp [digestOf?, Ledger.find, here]
  | none =>
      cases refused : reason? unit.key with
      | some reason =>
          rw [write_refused found refused]
          by_cases here : unit.key = key
          · simp [digestOf?, ← here, refused]
          · simp [digestOf?, Ledger.find, here]
      | none =>
          obtain ⟨status, written⟩ := write_fresh accepts found refused
          rw [written]
          rw [WriteOnce.digest?] at found ⊢
          rw [WriteOnce.digest?, List.lookup_cons]
          by_cases here : unit.key = key
          · subst here
            simp [digestOf?, Ledger.find, found, refused]
          · have apart : (key == unit.key) = false := beq_eq_false_iff_ne.mpr (Ne.symm here)
            simp [digestOf?, Ledger.find, here, apart]

theorem writeAll_cons (sink : Sink σ) (state : σ) (unit : RenderedUnit) (units : List RenderedUnit) :
    sink.writeAll state (unit :: units) = sink.writeAll (sink.write state unit).2 units := rfl

theorem digestOf?_cons (unit : RenderedUnit) (units : List RenderedUnit) (key : UnitKey) :
    digestOf? reason? (unit :: units) key =
      (digestOf? reason? [unit] key).or (digestOf? reason? units key) := by
  unfold digestOf?
  split
  · rfl
  · rw [← List.singleton_append, Ledger.find_append, Option.map_or]

theorem isSome_digestOf? (member : unit ∈ units) (admitted : reason? unit.key = none) :
    (digestOf? reason? units unit.key).isSome = true := by
  cases found : Ledger.find units unit.key with
  | some first => simp [digestOf?, admitted, found]
  | none => exact absurd (List.mem_map_of_mem member) (Ledger.find_eq_none_iff.mp found)

/-- Of the units of a name the first one that is let through leaves its digest. -/
theorem digest?_writeAll (accepts : inner.Accepts) (units : List RenderedUnit) (key : UnitKey) :
    ((guarded reason? inner).writeAll state units).digest? key =
      (state.digest? key).or (digestOf? reason? units key) := by
  induction units generalizing state with
  | nil =>
      have nothing : digestOf? reason? [] key = none := ite_self _
      rw [nothing, Option.or_none]
      rfl
  | cons unit rest ih =>
      rw [writeAll_cons, ih, digest?_write accepts, Option.or_assoc, ← digestOf?_cons]

/-- Units that are offered again without being refused leave the digests of units that never were
    refused. -/
theorem digest?_retry (accepts : inner.Accepts) (units : List RenderedUnit) (key : UnitKey) :
    ((writeOnce inner).writeAll ((guarded reason? inner).writeAll state units) units).digest? key =
      ((writeOnce inner).writeAll state units).digest? key := by
  rw [← guarded_none, digest?_writeAll accepts, digest?_writeAll accepts, digest?_writeAll accepts,
    Option.or_assoc]
  cases refused : reason? key <;> simp [digestOf?, refused]

/-- What is offered later does not change what became of a name. -/
theorem digest?_settled (accepts : inner.Accepts) (unit : RenderedUnit) (later : List RenderedUnit) :
    ((guarded reason? inner).writeAll ((guarded reason? inner).write state unit).2 later).digest?
        unit.key = ((guarded reason? inner).write state unit).2.digest? unit.key := by
  rw [digest?_writeAll accepts, digest?_write accepts]
  cases found : state.digest? unit.key with
  | some known => rfl
  | none => cases refused : reason? unit.key <;> simp [digestOf?, Ledger.find, refused]

theorem write_ok_iff (accepts : inner.Accepts) :
    (∃ status, ((guarded reason? inner).write state unit).1 = .ok status) ↔
      ((guarded reason? inner).write state unit).2.digest? unit.key =
        some (Text.Digest.ofText unit.source) := by
  rw [digest?_write accepts]
  cases found : state.digest? unit.key with
  | some known =>
      rw [guarded, write_known found, Option.some_or, Option.some.injEq]
      split <;> simp [*]
  | none =>
      cases refused : reason? unit.key with
      | some reason => simp [write_refused found refused, digestOf?, refused]
      | none =>
          obtain ⟨status, written⟩ := write_fresh accepts found refused
          simp [written, digestOf?, Ledger.find, refused]

end Guarded

section Memory

variable {reason? : UnitKey → Option String} {state : WriteOnce Store}

/-- Whether a write-once sink has yet to see a name, which is not refused below. -/
def awaits (reason? : UnitKey → Option String) (state : WriteOnce Store) (unit : RenderedUnit) :
    Bool :=
  (state.digest? unit.key).isNone && (reason? unit.key).isNone

theorem awaits_write (unit : RenderedUnit) {other : RenderedUnit} (same : other.key = unit.key) :
    awaits reason? ((guarded reason? memory).write state unit).2 other = false := by
  rw [awaits, same, digest?_write accepts_memory]
  cases refused : reason? unit.key <;> simp [digestOf?, Ledger.find, refused]

theorem awaits_write_of_ne (unit : RenderedUnit) {other : RenderedUnit}
    (apart : other.key ≠ unit.key) :
    awaits reason? ((guarded reason? memory).write state unit).2 other =
      awaits reason? state other := by
  rw [awaits, awaits, digest?_write accepts_memory]
  simp [digestOf?, Ledger.find, Ne.symm apart]

theorem get?_write_memory (unit : RenderedUnit) (path : String) :
    ((guarded reason? memory).write state unit).2.inner.get? path =
      if path = unit.path ∧ awaits reason? state unit = true then some unit
      else state.inner.get? path := by
  cases found : state.digest? unit.key with
  | some known => simp [guarded, write_known found, awaits, found]
  | none =>
      cases refused : reason? unit.key with
      | some reason => simp [write_refused found refused, awaits, refused]
      | none =>
          obtain ⟨status, written⟩ := write_fresh accepts_memory found refused
          have stored : (memory.write state.inner unit).2 = state.inner.insert unit.path unit := rfl
          simp [written, stored, awaits, found, refused, SortedMap.get?_insert]

/-- A path holds the first unit that has it, if that was let through, and else what it held. -/
theorem get?_writeAll_memory {units : List RenderedUnit}
    (apart : ∀ unit ∈ units, ∀ other ∈ units, unit.path = other.path ↔ unit.key = other.key)
    (path : String) :
    ((guarded reason? memory).writeAll state units).inner.get? path =
      ((units.find? fun unit => decide (unit.path = path)).filter (awaits reason? state)).or
        (state.inner.get? path) := by
  induction units generalizing state with
  | nil => rfl
  | cons unit rest ih =>
      have restApart := fun first firstIn second secondIn =>
        apart first (List.mem_cons_of_mem _ firstIn) second (List.mem_cons_of_mem _ secondIn)
      have later : ∀ other ∈ rest, other.path = unit.path ↔ other.key = unit.key :=
        fun other member => apart other (List.mem_cons_of_mem _ member) unit List.mem_cons_self
      rw [writeAll_cons, ih restApart, get?_write_memory]
      by_cases here : unit.path = path
      · -- The name is settled now, so the later units of this path are not let through.
        have settled : (rest.find? fun unit => decide (unit.path = path)).filter
            (awaits reason? ((guarded reason? memory).write state unit).2) = none := by
          refine Option.filter_eq_none_iff.mpr fun other found => ?_
          have same := (later other (List.mem_of_find?_eq_some found)).mp
            ((by simpa using List.find?_some found : other.path = path).trans here.symm)
          simp [awaits_write unit same]
        rw [settled]
        cases admitted : awaits reason? state unit <;> simp [here, admitted, Option.filter]
      · have others : (rest.find? fun unit => decide (unit.path = path)).filter
            (awaits reason? ((guarded reason? memory).write state unit).2) =
              (rest.find? fun unit => decide (unit.path = path)).filter (awaits reason? state) := by
          cases found : rest.find? fun unit => decide (unit.path = path) with
          | none => rfl
          | some other =>
              have otherPath : other.path = path := by simpa using List.find?_some found
              have different : other.key ≠ unit.key := fun same => here
                (((later other (List.mem_of_find?_eq_some found)).mpr same).symm.trans otherPath)
              simp [Option.filter, awaits_write_of_ne unit different]
        simp [here, Ne.symm here, others]

/-- Units that are offered again without being refused are stored as if they never were refused. -/
theorem inner_retry {units : List RenderedUnit}
    (apart : ∀ unit ∈ units, ∀ other ∈ units, unit.path = other.path ↔ unit.key = other.key) :
    ((writeOnce memory).writeAll ((guarded reason? memory).writeAll state units) units).inner =
      ((writeOnce memory).writeAll state units).inner := by
  refine SortedMap.ext_get? fun path => ?_
  rw [← guarded_none, get?_writeAll_memory apart, get?_writeAll_memory apart,
    get?_writeAll_memory apart]
  cases found : units.find? fun unit => decide (unit.path = path) with
  | none => rfl
  | some unit =>
      have member := List.mem_of_find?_eq_some found
      have again : awaits (fun _ => none) ((guarded reason? memory).writeAll state units) unit =
          ((state.digest? unit.key).isNone && (reason? unit.key).isSome) := by
        rw [awaits, digest?_writeAll accepts_memory]
        cases refused : reason? unit.key with
        | some reason => simp [digestOf?, refused]
        | none =>
            obtain ⟨digest, left⟩ := Option.isSome_iff_exists.mp (isSome_digestOf? member refused)
            simp [left]
      simp only [Option.filter, again]
      cases known : state.digest? unit.key <;> cases refused : reason? unit.key <;>
        simp [awaits, known, refused]

end Memory

end Sink

namespace Language

open Sink

variable {σ : Type} (language : Language)

theorem state_emit (sink : Sink σ) (state : σ) (units : List GeneratedUnit) :
    (language.emit sink state units).state = sink.writeAll state (language.renderAll units) := by
  induction units generalizing state with
  | nil => rfl
  | cons unit rest ih =>
      rw [state_emit_cons, ih]
      cases made : language.render unit with
      | error => rw [emitUnit_of_error _ made, language.renderAll_cons_error made]
      | ok rendered => rw [emitUnit_of_ok _ made, language.renderAll_cons_ok made, writeAll_cons]

/-- Whether a unit can be rendered, to content with the digest that goes with its name. -/
def agrees (digest? : UnitKey → Option String) (unit : GeneratedUnit) : Bool :=
  match language.render unit with
  | .ok rendered => decide (digest? rendered.key = some (Text.Digest.ofText rendered.source))
  | .error _ => false

/-- Names of the units that do not have the content which goes with their names. -/
def disagreeing (digest? : UnitKey → Option String) (units : List GeneratedUnit) : List UnitKey :=
  (units.filter fun unit => !language.agrees digest? unit).map GeneratedUnit.key

theorem mem_disagreeing {digest? : UnitKey → Option String} {units : List GeneratedUnit}
    {unit : GeneratedUnit} (member : unit ∈ units) (unknown : digest? unit.key = none) :
    unit.key ∈ language.disagreeing digest? units := by
  refine List.mem_map_of_mem (List.mem_filter.mpr ⟨member, ?_⟩)
  unfold agrees
  cases made : language.render unit with
  | error => rfl
  | ok rendered =>
      have key := (render_eq_ok made).1
      simp [key, unknown]

/-- A unit that has the content which goes with its name has it also when more names are known. -/
theorem disagreeing_mono {digest? later? : UnitKey → Option String}
    (kept : ∀ key digest, digest? key = some digest → later? key = some digest)
    {units : List GeneratedUnit} (agreed : (language.disagreeing digest? units).isEmpty = true) :
    (language.disagreeing later? units).isEmpty = true := by
  simp only [disagreeing, List.isEmpty_map, List.isEmpty_iff, List.filter_eq_nil_iff] at agreed ⊢
  intro unit member
  have here := agreed unit member
  unfold agrees at here ⊢
  cases made : language.render unit with
  | error => simp [made] at here
  | ok rendered =>
      simp only [made, Bool.not_eq_true', decide_eq_false_iff_not, not_not] at here ⊢
      exact kept _ _ here

section Guarded

variable {reason? : UnitKey → Option String} {inner : Sink σ} {state : WriteOnce σ}

theorem emitUnit_ok_iff (accepts : inner.Accepts) (unit : GeneratedUnit) (later : List GeneratedUnit) :
    (∃ status, (language.emitUnit (guarded reason? inner) state unit).1 = .ok status) ↔
      language.agrees (language.emit (guarded reason? inner)
        (language.emitUnit (guarded reason? inner) state unit).2 later).state.digest? unit = true := by
  rw [state_emit]
  unfold agrees
  cases made : language.render unit with
  | error => simp [emitUnit_of_error _ made]
  | ok rendered => simp [emitUnit_of_ok _ made, write_ok_iff accepts, digest?_settled accepts]

/-- The units that fail are those whose names go with other content afterwards, or with none,
    whatever else is emitted then. -/
theorem failed_emit (accepts : inner.Accepts) (units later : List GeneratedUnit) :
    (language.emit (guarded reason? inner) state units).report.failed.map Prod.fst =
      language.disagreeing (language.emit (guarded reason? inner)
        (language.emit (guarded reason? inner) state units).state later).state.digest? units := by
  induction units generalizing state with
  | nil => rfl
  | cons unit rest ih =>
      have failed : (language.emit (guarded reason? inner) state (unit :: rest)).report.failed =
          (EmitReport.ofResult unit.key
            (language.emitUnit (guarded reason? inner) state unit).1).failed ++
          (language.emit (guarded reason? inner)
            (language.emitUnit (guarded reason? inner) state unit).2 rest).report.failed := rfl
      have passed : (∃ status, (language.emitUnit (guarded reason? inner) state unit).1 = .ok status) ↔
          _ := language.emitUnit_ok_iff accepts unit (rest ++ later)
      rw [state_emit_append] at passed
      rw [failed, List.map_append, ih, state_emit_cons, disagreeing, disagreeing, List.filter_cons]
      cases done : (language.emitUnit (guarded reason? inner) state unit).1 with
      | error error =>
          rw [done] at passed
          simp only [reduceCtorEq, exists_false, false_iff, Bool.not_eq_true] at passed
          simp [passed, EmitReport.ofResult]
      | ok status =>
          rw [done] at passed
          have agreed := passed.mp ⟨status, rfl⟩
          cases status <;> simp [agreed, EmitReport.ofResult]

/-- The names of the units that can be rendered are all known. -/
def Known (state : WriteOnce σ) (units : List GeneratedUnit) : Prop :=
  ∀ rendered ∈ language.renderAll units, (state.digest? rendered.key).isSome = true

theorem known_append {first second : List GeneratedUnit} :
    language.Known state (first ++ second) ↔
      language.Known state first ∧ language.Known state second := by
  simp only [Known, renderAll_append, List.forall_mem_append]

/-- After an emission the names of its units are known, unless they are refused. -/
theorem isSome_digest?_emit (accepts : inner.Accepts) {units : List GeneratedUnit}
    {rendered : RenderedUnit} (member : rendered ∈ language.renderAll units)
    (admitted : reason? rendered.key = none) :
    ((language.emit (guarded reason? inner) state units).state.digest? rendered.key).isSome = true := by
  rw [state_emit, digest?_writeAll accepts, Option.isSome_or, isSome_digestOf? member admitted,
    Bool.or_true]

theorem known_emit (accepts : inner.Accepts) (units : List GeneratedUnit) :
    language.Known (language.emit (.writeOnce inner) state units).state units := by
  intro rendered member
  rw [← guarded_none]
  exact language.isSome_digest?_emit accepts member rfl

/-- Units whose names are all known change nothing. -/
theorem emit_known {units : List GeneratedUnit} (known : language.Known state units) :
    (language.emit (.writeOnce inner) state units).state = state ∧
      (language.emit (.writeOnce inner) state units).report.written = [] := by
  induction units with
  | nil => exact ⟨rfl, rfl⟩
  | cons unit rest ih =>
      rw [← List.singleton_append, known_append] at known
      have others := ih known.2
      have here : (language.emitUnit (.writeOnce inner) state unit).2 = state ∧
          (EmitReport.ofResult unit.key
            (language.emitUnit (.writeOnce inner) state unit).1).written = [] := by
        cases made : language.render unit with
        | error =>
            rw [emitUnit_of_error _ made]
            exact ⟨rfl, rfl⟩
        | ok rendered =>
            rw [emitUnit_of_ok _ made]
            have given : rendered ∈ language.renderAll [unit] :=
              language.mem_renderAll.mpr ⟨unit, List.mem_cons_self, made⟩
            obtain ⟨digest, found⟩ := Option.isSome_iff_exists.mp (known.1 rendered given)
            simp only [write_known found, true_and]
            split <;> rfl
      have written : (language.emit (.writeOnce inner) state (unit :: rest)).report.written =
          (EmitReport.ofResult unit.key
            (language.emitUnit (.writeOnce inner) state unit).1).written ++
          (language.emit (.writeOnce inner)
            (language.emitUnit (.writeOnce inner) state unit).2 rest).report.written := rfl
      rw [state_emit_cons, written, here.1, here.2, others.2]
      exact ⟨others.1, rfl⟩

end Guarded

end Language

end RouteAtlas
