import Mathlib.Data.List.Induction
import Mathlib.Logic.Function.Basic
import RouteAtlas.Proofs.Route.Clashes

/-! # The order of entry

The classes of a slot stand in the order in which they last came into it, whatever moves, comes back
or is replaced in between. Whenever a class came into a slot that was taken, this was reported, also
if several tables are filled in turn and merged into each other with one log in common.
-/

namespace RouteAtlas

namespace RouteTable

/-- The classes of a slot once some records were inserted into the empty table. -/
def classesAfter (records : List RouteRecord) (group path : String) : List TypeRef :=
  ((empty.insertAll records).table.slot group path).targets

/-- The record after the first `time` ones brings a class into a slot where it was not. -/
structure EntersAt (records : List RouteRecord) (group path : String) (target : TypeRef)
    (time : Nat) : Prop where
  absent : target ∉ classesAfter (records.take time) group path
  present : target ∈ classesAfter (records.take (time + 1)) group path

/-- A class comes into a slot for the last time. -/
structure EntersLastAt (records : List RouteRecord) (group path : String) (target : TypeRef)
    (time : Nat) : Prop where
  enters : EntersAt records group path target time
  last : ∀ later, EntersAt records group path target later → later ≤ time

variable {records : List RouteRecord} {raw : RouteRecord} {group path : String}
  {target earlier later : TypeRef} {time moment : Nat}

section Entry

theorem EntersAt.lt_length (entry : EntersAt records group path target time) :
    time < records.length := by
  by_contra beyond
  have whole : records.take (time + 1) = records.take time := by
    rw [List.take_of_length_le (by omega), List.take_of_length_le (by omega)]
  exact entry.absent (whole ▸ entry.present)

theorem entersAt_concat_iff (early : time < records.length) :
    EntersAt (records ++ [raw]) group path target time ↔
      EntersAt records group path target time := by
  have before : (records ++ [raw]).take time = records.take time :=
    List.take_append_of_le_length (Nat.le_of_lt early)
  have after : (records ++ [raw]).take (time + 1) = records.take (time + 1) :=
    List.take_append_of_le_length early
  constructor
  · exact fun entry => ⟨before ▸ entry.absent, after ▸ entry.present⟩
  · exact fun entry => ⟨before.symm ▸ entry.absent, after.symm ▸ entry.present⟩

theorem entersAt_length_iff :
    EntersAt (records ++ [raw]) group path target records.length ↔
      target ∉ classesAfter records group path ∧
        target ∈ classesAfter (records ++ [raw]) group path := by
  have before : (records ++ [raw]).take records.length = records := List.take_left
  have after : (records ++ [raw]).take (records.length + 1) = records ++ [raw] :=
    List.take_of_length_le (by simp)
  constructor
  · exact fun entry => ⟨before ▸ entry.absent, after ▸ entry.present⟩
  · exact fun entry => ⟨before.symm ▸ entry.1, after.symm ▸ entry.2⟩

/-- A class that is in a slot does not come into it with the next record. -/
theorem EntersLastAt.concat (entry : EntersLastAt records group path target time)
    (there : target ∈ classesAfter records group path) (raw : RouteRecord) :
    EntersLastAt (records ++ [raw]) group path target time where
  enters := (entersAt_concat_iff entry.enters.lt_length).mpr entry.enters
  last := by
    intro later again
    have within := again.lt_length
    rw [List.length_append, List.length_singleton, Nat.lt_succ_iff_lt_or_eq] at within
    rcases within with before | rfl
    · exact entry.last later ((entersAt_concat_iff before).mp again)
    · exact absurd there (entersAt_length_iff.mp again).1

theorem entersLastAt_length (absent : target ∉ classesAfter records group path)
    (present : target ∈ classesAfter (records ++ [raw]) group path) :
    EntersLastAt (records ++ [raw]) group path target records.length where
  enters := entersAt_length_iff.mpr ⟨absent, present⟩
  last := by
    intro later again
    have within := again.lt_length
    rw [List.length_append, List.length_singleton] at within
    omega

/-- A class that is there in the end and was not there at some moment has come since. -/
theorem exists_entersAt (absent : target ∉ classesAfter (records.take moment) group path)
    (present : target ∈ classesAfter records group path) :
    ∃ time, moment ≤ time ∧ EntersAt records group path target time := by
  by_contra none
  push Not at none
  have never : ∀ time, moment ≤ time → target ∉ classesAfter (records.take time) group path := by
    intro time since
    induction since with
    | refl => exact absent
    | step since ih => exact fun there => none _ since ⟨ih, there⟩
  refine never (max moment records.length) (Nat.le_max_left ..) ?_
  rwa [List.take_of_length_le (Nat.le_max_right ..)]

/-- After its last entry a class has been in the slot all the time, if it is there in the end. -/
theorem EntersLastAt.stays (entry : EntersLastAt records group path target time)
    (present : target ∈ classesAfter records group path) (since : time < moment) :
    target ∈ classesAfter (records.take moment) group path := by
  by_contra absent
  obtain ⟨again, after, enters⟩ := exists_entersAt absent present
  have last := entry.last again enters
  omega

end Entry

/-- One class comes into a slot before another one, each for the last time. -/
def EntersBefore (records : List RouteRecord) (group path : String) (first second : TypeRef) :
    Prop :=
  ∃ early late, EntersLastAt records group path first early ∧
    EntersLastAt records group path second late ∧ early < late

theorem EntersBefore.concat (order : EntersBefore records group path earlier later)
    (earlierIn : earlier ∈ classesAfter records group path)
    (laterIn : later ∈ classesAfter records group path) (raw : RouteRecord) :
    EntersBefore (records ++ [raw]) group path earlier later := by
  obtain ⟨early, late, first, second, below⟩ := order
  exact ⟨early, late, first.concat earlierIn raw, second.concat laterIn raw, below⟩

/-- Each class of a slot has come into it. -/
theorem exists_entersLastAt (records : List RouteRecord) (group path : String) :
    ∀ target ∈ classesAfter records group path,
      ∃ time, EntersLastAt records group path target time := by
  induction records using List.reverseRecOn with
  | nil => exact fun target nothing => absurd nothing List.not_mem_nil
  | append_singleton records raw ih =>
      intro target present
      by_cases there : target ∈ classesAfter records group path
      · obtain ⟨time, entry⟩ := ih target there
        exact ⟨time, entry.concat there raw⟩
      · exact ⟨records.length, entersLastAt_length there present⟩

/-- The classes of a slot keep the order in which they last came into it. -/
theorem pairwise_entersBefore (records : List RouteRecord) (group path : String) :
    (classesAfter records group path).Pairwise (EntersBefore records group path) := by
  induction records using List.reverseRecOn with
  | nil => exact .nil
  | append_singleton records raw ih =>
      have kept : (classesAfter records group path).Pairwise
          (EntersBefore (records ++ [raw]) group path) :=
        ih.imp_of_mem fun earlierIn laterIn order => order.concat earlierIn laterIn raw
      have step := targets_insert_cases (empty.insertAll records).table raw group path
      rw [← table_insertAll_concat] at step
      rcases step with fewer | ⟨valid, -, -, -, absent, grown⟩
      · exact kept.sublist fewer
      · -- The newcomer has entered last, hence after all that are there.
        have grown : classesAfter (records ++ [raw]) group path =
          classesAfter records group path ++ [valid.target] := grown
        have newcomer : EntersLastAt (records ++ [raw]) group path valid.target records.length :=
          entersLastAt_length absent (by simp [grown])
        rw [grown]
        refine List.pairwise_append.mpr ⟨kept, List.pairwise_singleton _ _, ?_⟩
        intro target there other single
        obtain rfl := List.mem_singleton.mp single
        obtain ⟨time, entry⟩ := exists_entersLastAt records group path target there
        exact ⟨time, records.length, entry.concat there raw, newcomer, entry.enters.lt_length⟩

section Report

/-- A class that comes into a slot is reported with the class that has the first place there. -/
theorem warned_of_entersAt {holder : TypeRef} (entry : EntersAt records group path target time)
    (head : (classesAfter (records.take time) group path).head? = some holder) :
    clashWarning group path holder target ∈ (empty.insertAll records).log := by
  have here := entry.lt_length
  have next : records.take (time + 1) = records.take time ++ [records[time]] := by
    rw [List.take_add_one, List.getElem?_eq_getElem here, Option.toList_some]
  have present := entry.present
  rw [next] at present
  have step := targets_insert_cases (empty.insertAll (records.take time)).table records[time]
    group path
  rw [← table_insertAll_concat] at step
  rcases step with fewer | ⟨valid, passed, rfl, rfl, absent, grown⟩
  · exact absurd (fewer.subset present) entry.absent
  · rw [classesAfter, grown, List.mem_append, List.mem_singleton] at present
    obtain rfl := present.resolve_left entry.absent
    obtain ⟨first, arrival⟩ := arrival_of_insert passed (List.mem_of_mem_head? head) absent
    obtain rfl : first = holder := Option.some.inj (arrival.head.symm.trans head)
    have whole : records.take (time + 1) ++ records.drop (time + 1) = records :=
      List.take_append_drop ..
    rw [← whole, log_insertAll_append, next]
    exact List.mem_append_left _ arrival.reported

/-- Each record of a slot but the first was reported when its class last came in. -/
theorem warned_of_mem_rest {first record : RouteRecord} {rest : RouteSlot}
    (slot : (empty.insertAll records).table.slot group path = first :: rest)
    (member : record ∈ rest) :
    ∃ time holder, EntersLastAt records group path record.target time ∧
      (classesAfter (records.take time) group path).head? = some holder ∧
      clashWarning group path holder record.target ∈ (empty.insertAll records).log := by
  have classes : classesAfter records group path =
      first.target :: rest.map RouteRecord.target := by
    rw [classesAfter, slot]
    rfl
  have order := pairwise_entersBefore records group path
  rw [classes, List.pairwise_cons] at order
  obtain ⟨early, late, opening, entry, below⟩ := order.1 _ (List.mem_map_of_mem member)
  -- The class that is first now was there by then, so the slot was taken.
  have taken := opening.stays (by rw [classes]; exact List.mem_cons_self) below
  obtain ⟨holder, others, listed⟩ := List.exists_cons_of_ne_nil (List.ne_nil_of_mem taken)
  have head : (classesAfter (records.take late) group path).head? = some holder := by
    rw [listed]
    rfl
  exact ⟨late, holder, entry, head, warned_of_entersAt entry.enters head⟩

end Report

/-- What a log tells of a table to which certain records came, one after another. -/
structure EntryLaw (table : RouteTable) (arrivals : List RouteRecord) (log : Diagnostics) :
    Prop where
  history : table = (empty.insertAll arrivals).table
  /-- The warning names the class that was first in the slot when the other one last came in. -/
  reported : ∀ {group path first rest}, table.slot group path = first :: rest →
    ∀ record ∈ rest, ∃ time holder, EntersLastAt arrivals group path record.target time ∧
      (classesAfter (arrivals.take time) group path).head? = some holder ∧
      Reports log group path holder record.target
  ordered : ∀ group path,
    (table.slot group path).targets.Pairwise (EntersBefore arrivals group path)

/-- Route tables under names, filled with one log in common. -/
structure Cabinet where
  table : String → RouteTable := fun _ => .empty
  log : Diagnostics := []

/-- What is done to a table of a cabinet. -/
inductive Call where
  | insert (name : String) (record : RouteRecord)
  /-- The records of another table, or of the table itself, are inserted. -/
  | merge (name other : String)

/-- The table that a call fills. -/
def Call.name : Call → String
  | .insert name _ | .merge name _ => name

namespace Cabinet

/-- Put the outcome of a call in the place of the table. -/
def store (cabinet : Cabinet) (name : String) (table : RouteTable) (log : Diagnostics) : Cabinet :=
  ⟨Function.update cabinet.table name table, cabinet.log ++ log⟩

def call (cabinet : Cabinet) : Call → Cabinet
  | .insert name record =>
    let next := (cabinet.table name).insert record
    cabinet.store name next.table next.log
  | .merge name other =>
    let batch := (cabinet.table name).merge (cabinet.table other)
    cabinet.store name batch.table batch.log

def run (cabinet : Cabinet) (calls : List Call) : Cabinet :=
  calls.foldl call cabinet

/-- The records that a call brings to its table. -/
def brought (cabinet : Cabinet) : Call → List RouteRecord
  | .insert _ record => [record]
  | .merge _ other => (cabinet.table other).records

/-- The records that calls bring to a table, one after another. -/
def arrivals (name : String) : Cabinet → List Call → List RouteRecord
  | _, [] => []
  | cabinet, call :: rest =>
    (if call.name = name then cabinet.brought call else []) ++
      arrivals name (cabinet.call call) rest

variable (cabinet : Cabinet)

theorem call_eq (call : Call) :
    cabinet.call call = cabinet.store call.name
      ((cabinet.table call.name).insertAll (cabinet.brought call)).table
      ((cabinet.table call.name).insertAll (cabinet.brought call)).log := by
  cases call <;> rfl

theorem table_call (name : String) (call : Call) :
    (cabinet.call call).table name =
      ((cabinet.table name).insertAll
        (if call.name = name then cabinet.brought call else [])).table := by
  rw [call_eq]
  by_cases own : call.name = name
  · subst own
    simp [store]
  · simp [store, Function.update_of_ne (Ne.symm own), own]

/-- A table becomes what the records that come to it make of it. -/
theorem table_run (name : String) (calls : List Call) :
    (cabinet.run calls).table name =
      ((cabinet.table name).insertAll (cabinet.arrivals name calls)).table := by
  induction calls generalizing cabinet with
  | nil => rfl
  | cons call rest ih =>
      rw [arrivals, table_insertAll_append, ← table_call]
      exact ih (cabinet.call call)

theorem log_subset_run (calls : List Call) : cabinet.log ⊆ (cabinet.run calls).log := by
  induction calls generalizing cabinet with
  | nil => exact List.Subset.refl _
  | cons call rest ih =>
      have step : cabinet.log ⊆ (cabinet.call call).log := by
        rw [call_eq]
        exact List.subset_append_left _ _
      exact List.Subset.trans step (ih (cabinet.call call))

/-- Whatever is said of the records that come to one of the tables is in the log. -/
theorem log_arrivals_subset (name : String) (calls : List Call) :
    ((cabinet.table name).insertAll (cabinet.arrivals name calls)).log ⊆
      (cabinet.run calls).log := by
  induction calls generalizing cabinet with
  | nil => exact List.nil_subset _
  | cons call rest ih =>
      rw [arrivals, log_insertAll_append, ← table_call]
      refine List.append_subset.mpr ⟨?_, ih (cabinet.call call)⟩
      have step : ((cabinet.table name).insertAll
          (if call.name = name then cabinet.brought call else [])).log ⊆
            (cabinet.call call).log := by
        split
        · rename_i own
          subst own
          rw [call_eq]
          exact List.subset_append_right _ _
        · exact List.nil_subset _
      exact List.Subset.trans step (log_subset_run (cabinet.call call) rest)

end Cabinet

/-- Whatever insertions and merges filled a table, beside others and with one log for all of them,
    no class shares a path without a report, and the classes of a path stand in the order in which
    they last came. -/
theorem entryLaw_of_calls (said : Diagnostics) (calls : List Call) (name : String) :
    let cabinet : Cabinet := { log := said }
    EntryLaw ((cabinet.run calls).table name) (cabinet.arrivals name calls)
      (cabinet.run calls).log := by
  intro cabinet
  have made : (cabinet.run calls).table name =
      (empty.insertAll (cabinet.arrivals name calls)).table := cabinet.table_run name calls
  constructor
  case history => exact made
  case reported =>
    intro group path first rest slot record member
    rw [made] at slot
    obtain ⟨time, holder, entry, head, warned⟩ := warned_of_mem_rest slot member
    exact ⟨time, holder, entry, head,
      reports_of_mem (cabinet.log_arrivals_subset name calls warned)⟩
  case ordered =>
    intro group path
    rw [made]
    exact pairwise_entersBefore _ group path

/-- Of two pages with one path the first moves away and comes back: it stands behind the other. -/
example :
    let page (path target : String) : RouteRecord :=
      { path, kind := .screen, target := .named target }
    let cabinet := Cabinet.run {}
      [.insert "main" (page "/main/home" "app.Home"),
        .insert "main" (page "/main/home" "app.Start"),
        .insert "late" (page "/main/start" "app.Home"), .merge "main" "late",
        .insert "main" (page "/main/home" "app.Home")]
    ((cabinet.table "main").slot "main" "/main/home").targets =
        [.named "app.Start", .named "app.Home"] ∧
      clashWarning "main" "/main/home" (.named "app.Start") (.named "app.Home") ∈ cabinet.log := by
  decide +kernel

end RouteTable

end RouteAtlas
