import Mathlib.Data.List.Nodup
import RouteAtlas.Emission
import RouteAtlas.Proofs.Except
import RouteAtlas.Proofs.SortedMap

/-! # Ledgers of write-once sinks

Of the units that are offered to a write-once sink under one name the first is let through and the
others are not. If the sink below never refuses, those let through determine its state.
-/

namespace RouteAtlas

/-- The units that were let through, in order. -/
abbrev Ledger := List RenderedUnit

namespace Ledger

/-- Let a unit through if its name is new. -/
def add (ledger : Ledger) (unit : RenderedUnit) : Ledger :=
  if unit.key ∈ ledger.map RenderedUnit.key then ledger else ledger ++ [unit]

/-- Offer units one after another. -/
def addAll (ledger : Ledger) (units : List RenderedUnit) : Ledger :=
  units.foldl add ledger

/-- The unit that was let through under a name. -/
def find (ledger : Ledger) (key : UnitKey) : Option RenderedUnit :=
  ledger.find? fun unit => decide (unit.key = key)

variable {ledger : Ledger} {unit : RenderedUnit} {units : List RenderedUnit} {key : UnitKey}

theorem find_eq_none_iff : ledger.find key = none ↔ key ∉ ledger.map RenderedUnit.key := by
  simp [find, List.find?_eq_none]

theorem key_of_find (found : ledger.find key = some unit) : unit.key = key := by
  simpa using List.find?_some found

theorem mem_of_find (found : ledger.find key = some unit) : unit ∈ ledger :=
  List.mem_of_find?_eq_some found

/-- Under one name one unit is let through. -/
theorem find_of_mem (distinct : (ledger.map RenderedUnit.key).Nodup) (member : unit ∈ ledger) :
    ledger.find unit.key = some unit := by
  cases found : ledger.find unit.key with
  | none => exact absurd (List.mem_map_of_mem member) (find_eq_none_iff.mp found)
  | some other =>
      rw [List.inj_on_of_nodup_map distinct (mem_of_find found) member (key_of_find found)]

theorem find_append (first second : Ledger) (key : UnitKey) :
    Ledger.find (first ++ second) key = (first.find key).or (second.find key) :=
  List.find?_append

theorem find_add : (ledger.add unit).find key = (ledger.find key).or (Ledger.find [unit] key) := by
  unfold add
  split
  · rename_i known
    by_cases same : unit.key = key
    · subst same
      have present : ledger.find unit.key ≠ none := fun absent => find_eq_none_iff.mp absent known
      obtain ⟨first, found⟩ := Option.ne_none_iff_exists'.mp present
      rw [found, Option.some_or]
    · simp [find, same]
  · exact find_append ledger [unit] key

/-- Of the units of a name the first is let through. -/
theorem find_addAll :
    (ledger.addAll units).find key = (ledger.find key).or (Ledger.find units key) := by
  induction units generalizing ledger with
  | nil => simp [addAll, find]
  | cons unit rest ih =>
      change (addAll (ledger.add unit) rest).find key = _
      rw [ih, find_add, Option.or_assoc, ← find_append, List.singleton_append]

theorem find_addAll_of_find (found : ledger.find key = some unit) :
    (ledger.addAll units).find key = some unit := by
  rw [find_addAll, found, Option.some_or]

theorem addAll_append (first second : List RenderedUnit) :
    ledger.addAll (first ++ second) = (ledger.addAll first).addAll second :=
  List.foldl_append

theorem nodup_add (distinct : (ledger.map RenderedUnit.key).Nodup) :
    ((ledger.add unit).map RenderedUnit.key).Nodup := by
  unfold add
  split
  · exact distinct
  · rename_i fresh
    rw [List.map_append, List.nodup_append]
    refine ⟨distinct, List.nodup_singleton _, ?_⟩
    intro key known other single same
    rw [List.map_singleton, List.mem_singleton] at single
    rw [same, single] at known
    exact fresh known

theorem mem_of_mem_addAll (member : unit ∈ ledger.addAll units) : unit ∈ ledger ∨ unit ∈ units := by
  induction units generalizing ledger with
  | nil => exact .inl member
  | cons other rest ih =>
      have member : unit ∈ (ledger.add other).addAll rest := member
      rcases ih member with old | later
      · unfold add at old
        split at old
        · exact .inl old
        · rcases List.mem_append.mp old with before | here
          · exact .inl before
          · rw [List.mem_singleton.mp here]
            exact .inr List.mem_cons_self
      · exact .inr (List.mem_cons_of_mem _ later)

theorem add_of_find {known : RenderedUnit} (found : ledger.find unit.key = some known) :
    ledger.add unit = ledger := by
  refine if_pos (Decidable.byContradiction fun fresh => ?_)
  rw [find_eq_none_iff.mpr fresh] at found
  cases found

theorem add_of_absent (absent : ledger.find unit.key = none) :
    ledger.add unit = ledger ++ [unit] :=
  if_neg (find_eq_none_iff.mp absent)

end Ledger

/-- The digest of what was let through under a name. -/
def WriteOnce.digest? {σ : Type} (state : WriteOnce σ) (key : UnitKey) : Option String :=
  state.digests.lookup key

/-- The sink refuses no unit. -/
def Sink.Accepts {σ : Type} (sink : Sink σ) : Prop :=
  ∀ state unit, ∃ status, (sink.write state unit).1 = .ok status

namespace Sink

theorem accepts_memory : memory.Accepts :=
  fun _ _ => ⟨.written, rfl⟩

/-- The state after writing units one after another. -/
def writeAll {σ : Type} (sink : Sink σ) (state : σ) (units : List RenderedUnit) : σ :=
  units.foldl (fun state unit => (sink.write state unit).2) state

section Once

variable {σ : Type} {inner : Sink σ} {state : WriteOnce σ} {unit : RenderedUnit}

/-- A unit whose name is known changes nothing, and passes if its content is. -/
theorem write_known {known : String} (found : state.digest? unit.key = some known) :
    (writeOnce inner).write state unit =
      (if known = Text.Digest.ofText unit.source then .ok .unchanged
        else .error (.alreadyEmitted unit.key.qualifiedName), state) := by
  rw [WriteOnce.digest?] at found
  simp only [writeOnce, found]
  split <;> rfl

/-- A unit whose name is new is let through. -/
theorem write_new (absent : state.digest? unit.key = none) {status : WriteStatus}
    (written : (inner.write state.inner unit).1 = .ok status) :
    (writeOnce inner).write state unit =
      (.ok status, ⟨(inner.write state.inner unit).2,
        (unit.key, Text.Digest.ofText unit.source) :: state.digests⟩) := by
  rw [WriteOnce.digest?] at absent
  simp only [writeOnce, absent]
  split
  · rename_i other after done
    rw [done] at written ⊢
    cases written
    rfl
  · rename_i done
    rw [done] at written
    cases written

end Once

section Memory

variable {units : List RenderedUnit} {unit : RenderedUnit}

/-- Of the units written to a memory each path holds the last. -/
theorem writeAll_memory (units : List RenderedUnit) :
    memory.writeAll .empty units = .ofList (units.map fun unit => (unit.path, unit)) := by
  rw [writeAll, SortedMap.ofList, List.foldl_map]
  rfl

theorem mem_of_mem_values_memory (member : unit ∈ (memory.writeAll .empty units).values) :
    unit ∈ units := by
  rw [writeAll_memory] at member
  obtain ⟨⟨path, held⟩, entry, rfl⟩ := List.mem_map.mp member
  obtain ⟨written, known, same⟩ := List.mem_map.mp (SortedMap.mem_of_mem_ofList entry)
  cases same
  exact known

/-- A unit that is alone under its path stays. -/
theorem mem_values_memory (member : unit ∈ units)
    (alone : ∀ other ∈ units, other.path = unit.path → other = unit) :
    unit ∈ (memory.writeAll .empty units).values := by
  rw [writeAll_memory]
  have key : unit.path ∈
      (SortedMap.ofList (units.map fun unit => (unit.path, unit))).keys := by
    rw [SortedMap.mem_keys_ofList, List.map_map]
    exact List.mem_map_of_mem member
  obtain ⟨⟨path, held⟩, entry, here⟩ := List.mem_map.mp key
  obtain ⟨written, known, same⟩ := List.mem_map.mp (SortedMap.mem_of_mem_ofList entry)
  cases same
  rw [← alone held known here]
  exact List.mem_map_of_mem entry

end Memory

end Sink

/-- The state of a write-once sink that let certain units through to the sink below. -/
structure Ledger.Kept {σ : Type} (inner : Sink σ) (start : σ) (ledger : Ledger)
    (state : WriteOnce σ) : Prop where
  below : state.inner = inner.writeAll start ledger
  digests : ∀ key, state.digests.lookup key =
    (ledger.find key).map fun unit => Text.Digest.ofText unit.source
  distinct : (ledger.map RenderedUnit.key).Nodup

namespace Ledger.Kept

variable {σ : Type} {inner : Sink σ} {start : σ} {ledger : Ledger} {state : WriteOnce σ}
  {unit : RenderedUnit}

theorem empty (inner : Sink σ) (start : σ) : Kept inner start [] ⟨start, []⟩ where
  below := rfl
  digests := fun _ => rfl
  distinct := List.nodup_nil

theorem write_known (kept : Kept inner start ledger state) {known : RenderedUnit}
    (found : ledger.find unit.key = some known) :
    (Sink.writeOnce inner).write state unit =
      (if Text.Digest.ofText known.source = Text.Digest.ofText unit.source then .ok .unchanged
        else .error (.alreadyEmitted unit.key.qualifiedName), state) :=
  Sink.write_known ((kept.digests unit.key).trans (by rw [found, Option.map_some]))

theorem write_fresh (kept : Kept inner start ledger state) (absent : ledger.find unit.key = none)
    {status : WriteStatus} (written : (inner.write state.inner unit).1 = .ok status) :
    (Sink.writeOnce inner).write state unit =
      (.ok status, ⟨(inner.write state.inner unit).2,
        (unit.key, Text.Digest.ofText unit.source) :: state.digests⟩) :=
  Sink.write_new ((kept.digests unit.key).trans (by rw [absent, Option.map_none])) written

theorem write (kept : Kept inner start ledger state) (accepts : inner.Accepts)
    (unit : RenderedUnit) :
    Kept inner start (ledger.add unit) ((Sink.writeOnce inner).write state unit).2 := by
  cases found : ledger.find unit.key with
  | some known =>
      rw [kept.write_known found, add_of_find found]
      exact kept
  | none =>
      obtain ⟨status, written⟩ := accepts state.inner unit
      rw [kept.write_fresh found written, add_of_absent found]
      constructor
      case below => simp [kept.below, Sink.writeAll]
      case digests =>
        intro key
        rw [find_append, Option.map_or, ← kept.digests key, List.lookup_cons]
        by_cases here : key = unit.key
        · have unknown := kept.digests unit.key
          rw [found, Option.map_none] at unknown
          simp [here, unknown, find]
        · have apart : (key == unit.key) = false := by rw [beq_eq_false_iff_ne]; exact here
          simp [apart, Ne.symm here, find]
      case distinct =>
        rw [← add_of_absent found]
        exact nodup_add kept.distinct

/-- What passes has the content of the unit that was let through under its name. -/
theorem write_ok (kept : Kept inner start ledger state) {status : WriteStatus}
    (passed : ((Sink.writeOnce inner).write state unit).1 = .ok status) :
    ∃ known, (ledger.add unit).find unit.key = some known ∧
      Text.Digest.ofText known.source = Text.Digest.ofText unit.source := by
  cases found : ledger.find unit.key with
  | some known =>
      rw [kept.write_known found] at passed
      refine ⟨known, by rw [add_of_find found, found], ?_⟩
      split at passed
      · assumption
      · cases passed
  | none =>
      refine ⟨unit, ?_, rfl⟩
      rw [add_of_absent found, find_append, found]
      simp [find]

end Ledger.Kept

namespace Backend

theorem render_eq_ok {backend : Backend} {unit : GeneratedUnit} {rendered : RenderedUnit}
    (made : backend.render unit = .ok rendered) :
    rendered.key = unit.key ∧ rendered.path = unit.key.path backend.extension ∧
      backend.text unit = .ok rendered.source := by
  obtain ⟨source, written, rfl⟩ := map_eq_ok_iff.mp made
  exact ⟨rfl, rfl, written⟩

section Emission

variable {σ : Type} (backend : Backend) {sink : Sink σ} {state : σ}

theorem emitUnit_of_ok {unit : GeneratedUnit} {rendered : RenderedUnit}
    (made : backend.render unit = .ok rendered) :
    backend.emitUnit sink state unit = sink.write state rendered := by
  rw [emitUnit, made]

theorem emitUnit_of_error {unit : GeneratedUnit} {error : BuildError}
    (made : backend.render unit = .error error) :
    backend.emitUnit sink state unit = (.error error, state) := by
  rw [emitUnit, made]

theorem state_emit_cons (unit : GeneratedUnit) (rest : List GeneratedUnit) :
    (backend.emit sink state (unit :: rest)).state =
      (backend.emit sink (backend.emitUnit sink state unit).2 rest).state := rfl

theorem report_emit_cons (unit : GeneratedUnit) (rest : List GeneratedUnit) :
    (backend.emit sink state (unit :: rest)).report =
      .ofResult unit.key (backend.emitUnit sink state unit).1 ++
        (backend.emit sink (backend.emitUnit sink state unit).2 rest).report := rfl

end Emission

end Backend

namespace Language

theorem render_eq_ok {language : Language} {unit : GeneratedUnit} {rendered : RenderedUnit}
    (made : language.render unit = .ok rendered) :
    rendered.key = unit.key ∧ rendered.path = unit.key.path language.extension ∧
      rendered.source = language.source unit := by
  obtain ⟨key, path, written⟩ := Backend.render_eq_ok made
  obtain ⟨_, -, source⟩ := map_eq_ok_iff.mp written
  exact ⟨key, path, source.symm⟩

theorem exists_render_eq_ok {language : Language} {unit : GeneratedUnit}
    (checked : unit.body.check unit.key = .ok ()) :
    ∃ rendered, language.render unit = .ok rendered := by
  have written : language.backend.text unit = .ok (language.source unit) :=
    map_eq_ok_iff.mpr ⟨(), checked, rfl⟩
  exact ⟨_, map_eq_ok_iff.mpr ⟨_, written, rfl⟩⟩

variable {σ : Type} (language : Language)

/-- The sources of the units that can be rendered, in order. -/
def renderAll (units : List GeneratedUnit) : List RenderedUnit :=
  units.filterMap fun unit => (language.render unit).toOption

theorem renderAll_append (first second : List GeneratedUnit) :
    language.renderAll (first ++ second) = language.renderAll first ++ language.renderAll second :=
  List.filterMap_append

theorem renderAll_cons_error {unit : GeneratedUnit} {error : BuildError}
    (made : language.render unit = .error error) (rest : List GeneratedUnit) :
    language.renderAll (unit :: rest) = language.renderAll rest :=
  List.filterMap_cons_none (by rw [made]; rfl)

theorem renderAll_cons_ok {unit : GeneratedUnit} {rendered : RenderedUnit}
    (made : language.render unit = .ok rendered) (rest : List GeneratedUnit) :
    language.renderAll (unit :: rest) = rendered :: language.renderAll rest :=
  List.filterMap_cons_some (by rw [made]; rfl)

theorem mem_renderAll {units : List GeneratedUnit} {rendered : RenderedUnit} :
    rendered ∈ language.renderAll units ↔
      ∃ unit ∈ units, language.render unit = .ok rendered := by
  simp only [renderAll, List.mem_filterMap, toOption_eq_some_iff]

section Emission

variable {sink : Sink σ} {state : σ}

theorem emitUnit_of_ok {unit : GeneratedUnit} {rendered : RenderedUnit}
    (made : language.render unit = .ok rendered) :
    language.emitUnit sink state unit = sink.write state rendered :=
  language.backend.emitUnit_of_ok made

theorem emitUnit_of_error {unit : GeneratedUnit} {error : BuildError}
    (made : language.render unit = .error error) :
    language.emitUnit sink state unit = (.error error, state) :=
  language.backend.emitUnit_of_error made

theorem emit_nil : language.emit sink state [] = { state } := rfl

theorem emit_cons (unit : GeneratedUnit) (rest : List GeneratedUnit) :
    language.emit sink state (unit :: rest) =
      let (result, after) := language.emitUnit sink state unit
      let others := language.emit sink after rest
      { report := .ofResult unit.key result ++ others.report
        state := others.state
        log := unit.log result ++ others.log } := rfl

theorem state_emit_cons (unit : GeneratedUnit) (rest : List GeneratedUnit) :
    (language.emit sink state (unit :: rest)).state =
      (language.emit sink (language.emitUnit sink state unit).2 rest).state :=
  language.backend.state_emit_cons unit rest

theorem report_emit_cons (unit : GeneratedUnit) (rest : List GeneratedUnit) :
    (language.emit sink state (unit :: rest)).report =
      .ofResult unit.key (language.emitUnit sink state unit).1 ++
        (language.emit sink (language.emitUnit sink state unit).2 rest).report :=
  language.backend.report_emit_cons unit rest

/-- Units in two parts are emitted part by part. -/
theorem state_emit_append (first second : List GeneratedUnit) :
    (language.emit sink state (first ++ second)).state =
      (language.emit sink (language.emit sink state first).state second).state := by
  induction first generalizing state with
  | nil => rfl
  | cons unit rest ih => exact ih

/-- An emission is clean if every unit passes. -/
theorem isClean_emit_cons (unit : GeneratedUnit) (rest : List GeneratedUnit) :
    (language.emit sink state (unit :: rest)).report.isClean = true ↔
      (∃ status, (language.emitUnit sink state unit).1 = .ok status) ∧
        (language.emit sink (language.emitUnit sink state unit).2 rest).report.isClean = true := by
  have split : (language.emit sink state (unit :: rest)).report.failed =
      (EmitReport.ofResult unit.key (language.emitUnit sink state unit).1).failed ++
        (language.emit sink (language.emitUnit sink state unit).2 rest).report.failed := rfl
  simp only [EmitReport.isClean, split, List.isEmpty_iff, List.append_eq_nil_iff]
  apply and_congr_left
  intro _
  rcases (language.emitUnit sink state unit).1 with error | status
  · simp [EmitReport.ofResult]
  · cases status <;> simp [EmitReport.ofResult]

theorem isClean_emit_append (first second : List GeneratedUnit) :
    (language.emit sink state (first ++ second)).report.isClean = true ↔
      (language.emit sink state first).report.isClean = true ∧
        (language.emit sink (language.emit sink state first).state second).report.isClean =
          true := by
  induction first generalizing state with
  | nil => exact (and_iff_right rfl).symm
  | cons unit rest ih =>
      rw [List.cons_append, isClean_emit_cons, isClean_emit_cons, ih, and_assoc, state_emit_cons]

end Emission

section Kept

variable {inner : Sink σ} {start : σ} {ledger : Ledger} {state : WriteOnce σ}

theorem kept_emitUnit (accepts : inner.Accepts) (kept : ledger.Kept inner start state)
    (unit : GeneratedUnit) :
    (ledger.addAll (language.renderAll [unit])).Kept inner start
      (language.emitUnit (.writeOnce inner) state unit).2 := by
  cases made : language.render unit with
  | error =>
      rw [language.renderAll_cons_error made, emitUnit_of_error _ made]
      exact kept
  | ok rendered =>
      rw [language.renderAll_cons_ok made, emitUnit_of_ok _ made]
      exact kept.write accepts rendered

/-- After an emission the units that could be rendered are in the ledger too. -/
theorem kept_emit (accepts : inner.Accepts) (kept : ledger.Kept inner start state)
    (units : List GeneratedUnit) :
    (ledger.addAll (language.renderAll units)).Kept inner start
      (language.emit (.writeOnce inner) state units).state := by
  induction units generalizing ledger state with
  | nil => exact kept
  | cons unit rest ih =>
      rw [← List.singleton_append, renderAll_append, Ledger.addAll_append, List.singleton_append,
        state_emit_cons]
      exact ih (language.kept_emitUnit accepts kept unit)

theorem rendered_of_passed (kept : ledger.Kept inner start state) {unit : GeneratedUnit}
    {status : WriteStatus}
    (passed : (language.emitUnit (.writeOnce inner) state unit).1 = .ok status) :
    ∃ rendered, language.render unit = .ok rendered ∧
      ∃ known, (ledger.addAll (language.renderAll [unit])).find rendered.key = some known ∧
        Text.Digest.ofText known.source = Text.Digest.ofText rendered.source := by
  cases made : language.render unit with
  | error =>
      rw [emitUnit_of_error _ made] at passed
      cases passed
  | ok rendered =>
      rw [emitUnit_of_ok _ made] at passed
      rw [language.renderAll_cons_ok made]
      exact ⟨rendered, rfl, kept.write_ok passed⟩

/-- Units that are emitted without a failure have the content of those that were let through under
    their names. -/
theorem rendered_of_clean (accepts : inner.Accepts) (kept : ledger.Kept inner start state)
    {units : List GeneratedUnit}
    (clean : (language.emit (.writeOnce inner) state units).report.isClean = true)
    {unit : GeneratedUnit} (member : unit ∈ units) :
    ∃ rendered, language.render unit = .ok rendered ∧
      ∃ known, (ledger.addAll (language.renderAll units)).find rendered.key = some known ∧
        Text.Digest.ofText known.source = Text.Digest.ofText rendered.source := by
  induction units generalizing ledger state with
  | nil => cases member
  | cons first rest ih =>
      obtain ⟨⟨status, passed⟩, others⟩ := (language.isClean_emit_cons first rest).mp clean
      rw [← List.singleton_append, renderAll_append, Ledger.addAll_append]
      rcases List.mem_cons.mp member with rfl | later
      · obtain ⟨rendered, made, known, found, same⟩ := language.rendered_of_passed kept passed
        exact ⟨rendered, made, known, Ledger.find_addAll_of_find found, same⟩
      · exact ih (language.kept_emitUnit accepts kept first) others later

end Kept

end Language

end RouteAtlas
