import Mathlib.Data.List.Induction
import RouteAtlas.Proofs.Diagnostic
import RouteAtlas.Proofs.Route.Arrival

/-! # Paths that are claimed twice

A class that arrives at a path after others is reported, together with the class that holds the
path's first place. Nothing else is compared, so insertions give no other warning but of invalid
records.
-/

namespace RouteAtlas

namespace RouteTable

/-- The warning that a path of a group is that of another class already. -/
def clashWarning (group path : String) (first later : TypeRef) : Diagnostic :=
  ⟨.warn, (BuildError.duplicatePath group path first.name later.name).message, some later.name⟩

/-- An entry warns that a class was given the path of a group which another class has. -/
structure WarnsOf (entry : Diagnostic) (group path : String) (first later : TypeRef) : Prop where
  severity : entry.severity = .warn
  symbol : entry.symbol = some later.name
  text : entry.message = (BuildError.duplicatePath group path first.name later.name).message
  /-- The path is named with its group. -/
  place : Text.contains entry.message ("Path [" ++ path ++ "] in group [" ++ group ++ "]") = true
  /-- Both classes are named, the later one as the second. -/
  classes : Text.contains entry.message (first.name ++ " and " ++ later.name) = true

/-- A log warns that a class was given the path of a group which another class has. -/
def Reports (log : Diagnostics) (group path : String) (first later : TypeRef) : Prop :=
  ∃ entry ∈ log, WarnsOf entry group path first later

theorem warnsOf_clashWarning (group path : String) (first later : TypeRef) :
    WarnsOf (clashWarning group path first later) group path first later where
  severity := rfl
  symbol := rfl
  text := rfl
  place := BuildError.contains_place_duplicatePath ..
  classes := BuildError.contains_classes_duplicatePath ..

theorem reports_of_mem {log : Diagnostics} {group path : String} {first later : TypeRef}
    (said : clashWarning group path first later ∈ log) : Reports log group path first later :=
  ⟨_, said, warnsOf_clashWarning ..⟩

section Clash

variable {table : RouteTable} {record : RouteRecord}

theorem holds_iff {slot : RouteSlot} {target : TypeRef} :
    slot.holds target = true ↔ target ∈ slot.targets := by
  simp [RouteSlot.holds, RouteSlot.targets]

/-- A class that is new to a path is reported if the path has a first class. -/
theorem clash_eq (table : RouteTable) (record : RouteRecord) :
    table.clash record =
      match (table.slot record.groupName record.path).targets with
      | [] => []
      | first :: others =>
        if record.target ∈ first :: others then []
        else [clashWarning record.groupName record.path first record.target] := by
  unfold clash
  cases listed : table.slot record.groupName record.path with
  | nil => rfl
  | cons first rest =>
      have known : RouteSlot.holds (first :: rest) record.target = true ↔ _ := holds_iff
      have filled := (BuildError.duplicatePath record.groupName record.path first.target.name
        record.target.name).message_ne_empty
      simp only [RouteSlot.targets, List.map_cons] at known ⊢
      by_cases held : record.target ∈ first.target :: rest.map RouteRecord.target
      · simp [known.mpr held, held]
      · have absent : RouteSlot.holds (first :: rest) record.target = false :=
          Bool.eq_false_iff.mpr fun holds => held (known.mp holds)
        simp [absent, held, Diagnostics.warnAt, Diagnostics.entry, clashWarning,
          String.isEmpty_iff, filled]

/-- What is said of a record that is inserted. -/
theorem log_insert (table : RouteTable) (record : RouteRecord) :
    (table.insert record).log =
      match record.validate with
      | .error error =>
        Diagnostics.warn (progress ("Route meta verify error, " ++ error.message))
      | .ok valid =>
        Diagnostics.info (progress
          ("Start categories, group = " ++ valid.groupName ++ ", path = " ++ valid.path)) ++
            table.clash valid := by
  unfold insert
  cases record.validate with
  | error => rfl
  | ok valid =>
      -- The class of the record leaves the other paths only.
      have own : (table.withoutTarget valid.groupName valid.path valid.target).clash valid =
          table.clash valid := by
        rw [clash_eq, clash_eq, slot_withoutTarget, if_pos ⟨rfl, rfl⟩]
      simp only [own]

end Clash

section Run

variable {records before : List RouteRecord} {raw : RouteRecord}

theorem log_insertAll_concat (table : RouteTable) (records : List RouteRecord) (raw : RouteRecord) :
    (table.insertAll (records ++ [raw])).log =
      (table.insertAll records).log ++ ((table.insertAll records).table.insert raw).log := by
  simp only [insertAll, List.foldl_append, List.foldl_cons, List.foldl_nil, Batch.insert]

theorem log_insertAll_append (table : RouteTable) (first second : List RouteRecord) :
    (table.insertAll (first ++ second)).log =
      (table.insertAll first).log ++ ((table.insertAll first).table.insertAll second).log := by
  induction second using List.reverseRecOn with
  | nil => rw [List.append_nil]; exact (List.append_nil _).symm
  | append_singleton second raw ih =>
      rw [← List.append_assoc, log_insertAll_concat, ih, log_insertAll_concat,
        table_insertAll_append, List.append_assoc]

theorem table_insertAll_concat (table : RouteTable) (records : List RouteRecord)
    (raw : RouteRecord) :
    (table.insertAll (records ++ [raw])).table =
      ((table.insertAll records).table.insert raw).table := by
  rw [table_insertAll_append]
  rfl

/-- A class arrived at a path where another one was by then, and was reported with the first class
    there. -/
structure Arrival (records before : List RouteRecord) (group path : String)
    (earlier later first : TypeRef) : Prop where
  arrived : ∃ raw valid after, records = before ++ raw :: after ∧ raw.validate = .ok valid ∧
    valid.groupName = group ∧ valid.path = path ∧ valid.target = later
  there : earlier ∈ ((empty.insertAll before).table.slot group path).targets
  new : later ∉ ((empty.insertAll before).table.slot group path).targets
  head : ((empty.insertAll before).table.slot group path).targets.head? = some first
  reported : clashWarning group path first later ∈ (empty.insertAll records).log

variable {group path : String} {earlier later first : TypeRef}

theorem Arrival.concat (arrival : Arrival records before group path earlier later first)
    (raw : RouteRecord) : Arrival (records ++ [raw]) before group path earlier later first where
  arrived := by
    obtain ⟨here, valid, after, rfl, rest⟩ := arrival.arrived
    exact ⟨here, valid, after ++ [raw], by simp, rest⟩
  there := arrival.there
  new := arrival.new
  head := arrival.head
  reported := by
    rw [log_insertAll_concat]
    exact List.mem_append_left _ arrival.reported

theorem arrival_of_insert {valid : RouteRecord} (passed : raw.validate = .ok valid)
    (there : earlier ∈ ((empty.insertAll records).table.slot valid.groupName valid.path).targets)
    (new : valid.target ∉
      ((empty.insertAll records).table.slot valid.groupName valid.path).targets) :
    ∃ first, Arrival (records ++ [raw]) records valid.groupName valid.path earlier valid.target
      first := by
  cases listed : ((empty.insertAll records).table.slot valid.groupName valid.path).targets with
  | nil => simp [listed] at there
  | cons first others =>
      refine ⟨first, ⟨raw, valid, [], rfl, passed, rfl, rfl, rfl⟩, there, new, ?_, ?_⟩
      · rw [listed]
        rfl
      · rw [listed] at new
        rw [log_insertAll_concat, log_insert, passed]
        simp only [clash_eq, listed, if_neg new, List.mem_append, List.mem_singleton, or_true]

/-- An insertion adds at most its own class to a slot, at the end, and only if it is new there. -/
theorem targets_insert_cases (table : RouteTable) (raw : RouteRecord) (group path : String) :
    ((table.insert raw).table.slot group path).targets.Sublist (table.slot group path).targets ∨
      ∃ valid, raw.validate = .ok valid ∧ valid.groupName = group ∧ valid.path = path ∧
        valid.target ∉ (table.slot group path).targets ∧
        ((table.insert raw).table.slot group path).targets =
          (table.slot group path).targets ++ [valid.target] := by
  rw [table_insert]
  cases passed : raw.validate with
  | error => exact .inl (List.Sublist.refl _)
  | ok valid =>
      simp only [slot_filed]
      split
      · rename_i here
        obtain ⟨rfl, rfl⟩ := here
        rw [RouteSlot.targets_place]
        split
        · exact .inl (List.Sublist.refl _)
        · rename_i absent
          exact .inr ⟨valid, rfl, rfl, rfl, absent, rfl⟩
      · exact .inl (List.filter_sublist.map _)

theorem sublist_targets_of_insert {table : RouteTable}
    (pair : [earlier, later].Sublist ((table.insert raw).table.slot group path).targets) :
    [earlier, later].Sublist (table.slot group path).targets ∨
      ∃ valid, raw.validate = .ok valid ∧ valid.groupName = group ∧ valid.path = path ∧
        valid.target = later ∧ earlier ∈ (table.slot group path).targets ∧
        later ∉ (table.slot group path).targets := by
  rcases table.targets_insert_cases raw group path with fewer | added
  · exact .inl (pair.trans fewer)
  · obtain ⟨valid, passed, own, place, absent, grown⟩ := added
    rw [grown] at pair
    obtain ⟨front, back, same, inSlot, last⟩ := List.sublist_append_iff.mp pair
    rcases List.sublist_singleton.mp last with nothing | single
    · rw [nothing, List.append_nil] at same
      exact .inl (same ▸ inSlot)
    · obtain ⟨rfl, rfl⟩ : front = [earlier] ∧ later = valid.target := by
        cases front with
        | nil => simp [single] at same
        | cons a rest => cases rest <;> simp_all
      exact .inr ⟨valid, passed, own, place, rfl, List.singleton_sublist.mp inSlot, absent⟩

/-- Of two classes of a path the later one was reported when it arrived. -/
theorem exists_arrival (records : List RouteRecord) {group path : String}
    (pair : [earlier, later].Sublist ((empty.insertAll records).table.slot group path).targets) :
    ∃ before first, Arrival records before group path earlier later first := by
  induction records using List.reverseRecOn with
  | nil => cases pair
  | append_singleton records raw ih =>
      rw [table_insertAll_concat] at pair
      rcases sublist_targets_of_insert pair with known | ⟨valid, passed, rfl, rfl, rfl, there, new⟩
      · obtain ⟨before, first, arrival⟩ := ih known
        exact ⟨before, first, arrival.concat raw⟩
      · obtain ⟨first, arrival⟩ := arrival_of_insert passed there new
        exact ⟨records, first, arrival⟩

/-- Each class has one record at most, however often that is inserted. -/
def OneEach (records : List RouteRecord) : Prop :=
  ∀ record ∈ records, ∀ other ∈ records, record.target = other.target → record = other

theorem OneEach.of_append {after : List RouteRecord} (oneEach : OneEach (records ++ after)) :
    OneEach records :=
  fun record member other otherIn =>
    oneEach record (List.mem_append_left _ member) other (List.mem_append_left _ otherIn)

theorem accepted_of_lastAccepted {target : TypeRef} {record : RouteRecord}
    (last : lastAccepted records target = some record) : record ∈ accepted records := by
  induction records with
  | nil => cases last
  | cons raw rest ih =>
      rw [lastAccepted, Option.or_eq_some_iff] at last
      rcases last with later | ⟨-, here⟩
      · obtain ⟨raw, member, passed⟩ := mem_accepted.mp (ih later)
        exact mem_accepted.mpr ⟨raw, List.mem_cons_of_mem _ member, passed⟩
      · unfold acceptedFor? at here
        split at here
        · rename_i valid passed
          split at here
          · cases here
            exact mem_accepted.mpr ⟨raw, List.mem_cons_self, passed⟩
          · cases here
        · cases here

theorem accepted_of_mem_slot {record : RouteRecord}
    (member : record ∈ (empty.insertAll records).table.slot group path) :
    record ∈ accepted records := by
  have held := (mem_records_insertAll wellFormed_empty).mp (mem_records.mpr ⟨group, path, member⟩)
  rcases held with last | ⟨-, old⟩
  · exact accepted_of_lastAccepted last
  · simp [mem_records] at old

/-- If no class moves, then those of a path keep their places. -/
theorem targets_mono_insert (oneEach : OneEach (records ++ [raw])) (group path : String) :
    ((empty.insertAll records).table.slot group path).targets <+:
      ((empty.insertAll (records ++ [raw])).table.slot group path).targets := by
  rw [table_insertAll_concat, table_insert]
  cases passed : raw.validate with
  | error => exact List.prefix_refl _
  | ok valid =>
      rw [slot_filed]
      split
      · rw [RouteSlot.targets_place]
        split
        · exact List.prefix_refl _
        · exact List.prefix_append _ _
      · rename_i elsewhere
        have all : ((empty.insertAll records).table.slot group path).filter
            (fun r => decide (r.target ≠ valid.target)) =
              (empty.insertAll records).table.slot group path := by
          refine List.filter_eq_self.mpr fun held member => ?_
          rw [decide_eq_true_eq]
          intro same
          obtain ⟨first, firstIn, firstPassed⟩ := mem_accepted.mp (accepted_of_mem_slot member)
          have targets : first.target = raw.target := by
            rw [← RouteRecord.target_of_validate firstPassed, same,
              RouteRecord.target_of_validate passed]
          have equal := oneEach first (List.mem_append_left _ firstIn) raw (by simp) targets
          rw [equal, passed, Except.ok.injEq] at firstPassed
          obtain ⟨groups, paths⟩ := (wellFormed_insertAll wellFormed_empty records).filed member
          exact elsewhere ⟨by rw [firstPassed, groups], by rw [firstPassed, paths]⟩
        exact ⟨[], by rw [all, List.append_nil]⟩

theorem targets_mono (oneEach : OneEach (before ++ records)) (group path : String) :
    ((empty.insertAll before).table.slot group path).targets <+:
      ((empty.insertAll (before ++ records)).table.slot group path).targets := by
  induction records using List.reverseRecOn with
  | nil => exact ⟨[], by rw [List.append_nil, List.append_nil]⟩
  | append_singleton records raw ih =>
      rw [← List.append_assoc] at oneEach ⊢
      exact (ih oneEach.of_append).trans (targets_mono_insert oneEach group path)

/-- The classes of a path that come after its first one were all reported with that one. -/
theorem warned_of_oneEach (oneEach : OneEach records) {holder : RouteRecord} {rest : RouteSlot}
    (slot : (empty.insertAll records).table.slot group path = holder :: rest)
    {record : RouteRecord} (member : record ∈ rest) :
    clashWarning group path holder.target record.target ∈ (empty.insertAll records).log := by
  have pair : [holder.target, record.target].Sublist
      ((empty.insertAll records).table.slot group path).targets := by
    rw [slot]
    exact List.Sublist.cons_cons _ (List.singleton_sublist.mpr (List.mem_map_of_mem member))
  obtain ⟨before, first, arrival⟩ := exists_arrival records pair
  obtain ⟨raw, valid, after, rfl, -⟩ := arrival.arrived
  obtain ⟨others, grown⟩ := targets_mono oneEach group path
  have heads := congrArg List.head? grown
  rw [slot, List.head?_append, arrival.head, Option.some_or] at heads
  obtain rfl : first = holder.target := Option.some.inj heads
  exact arrival.reported

theorem accepted_of_target_mem {target : TypeRef}
    (member : target ∈ ((empty.insertAll records).table.slot group path).targets) :
    ∃ record ∈ accepted records,
      record.target = target ∧ record.groupName = group ∧ record.path = path := by
  obtain ⟨record, stored, rfl⟩ := List.mem_map.mp member
  have places := (wellFormed_insertAll wellFormed_empty records).filed stored
  exact ⟨record, accepted_of_mem_slot stored, rfl, places⟩

/-- A warning that another class has the path of a record, or that a record is invalid. -/
inductive Warned (records : List RouteRecord) : Diagnostic → Prop
  | refused {raw : RouteRecord} {error : BuildError} (member : raw ∈ records)
      (refused : raw.validate = .error error) :
      Warned records ⟨.warn, progress ("Route meta verify error, " ++ error.message), none⟩
  | clash {first later : RouteRecord} {entry : Diagnostic} (firstIn : first ∈ accepted records)
      (laterIn : later ∈ accepted records) (others : first.target ≠ later.target)
      (group : first.groupName = later.groupName) (path : first.path = later.path)
      (warns : WarnsOf entry later.groupName later.path first.target later.target) :
      Warned records entry

theorem Warned.concat {entry : Diagnostic} (warned : Warned records entry) (raw : RouteRecord) :
    Warned (records ++ [raw]) entry := by
  cases warned with
  | refused member refused => exact .refused (List.mem_append_left _ member) refused
  | clash firstIn laterIn others group path warns =>
      refine .clash ?_ ?_ others group path warns <;> rw [accepted_append]
      · exact List.mem_append_left _ firstIn
      · exact List.mem_append_left _ laterIn

theorem warned_of_clash {entry : Diagnostic} {valid : RouteRecord}
    (passed : raw.validate = .ok valid)
    (clashes : entry ∈ (empty.insertAll records).table.clash valid) :
    Warned (records ++ [raw]) entry := by
  rw [clash_eq] at clashes
  split at clashes
  · cases clashes
  · rename_i first others listed
    split at clashes
    · cases clashes
    · rename_i absent
      obtain rfl := List.mem_singleton.mp clashes
      have there : first ∈
          ((empty.insertAll records).table.slot valid.groupName valid.path).targets := by
        rw [listed]
        exact List.mem_cons_self
      obtain ⟨holder, accepts, rfl, group, path⟩ := accepted_of_target_mem there
      have own : valid ∈ accepted (records ++ [raw]) := mem_accepted.mpr ⟨raw, by simp, passed⟩
      have others : holder.target ≠ valid.target :=
        fun same => absent (same ▸ List.mem_cons_self)
      refine .clash ?_ own others group path (warnsOf_clashWarning ..)
      rw [accepted_append]
      exact List.mem_append_left _ accepts

/-- The step lemma of `warned_of_mem_log`. -/
theorem warned_of_insert {entry : Diagnostic}
    (said : entry ∈ ((empty.insertAll records).table.insert raw).log)
    (loud : entry.severity ≠ .info) : Warned (records ++ [raw]) entry := by
  rw [log_insert] at said
  cases passed : raw.validate with
  | error error =>
      simp only [passed, Diagnostics.warn, Diagnostics.entry] at said
      split at said
      · cases said
      · obtain rfl := List.mem_singleton.mp said
        exact .refused (by simp) passed
  | ok valid =>
      simp only [passed, List.mem_append] at said
      rcases said with told | clashes
      · simp only [Diagnostics.info, Diagnostics.entry] at told
        split at told
        · cases told
        · obtain rfl := List.mem_singleton.mp told
          exact absurd rfl loud
      · exact warned_of_clash passed clashes

/-- Insertions warn of nothing else. -/
theorem warned_of_mem_log {entry : Diagnostic} (said : entry ∈ (empty.insertAll records).log)
    (loud : entry.severity ≠ .info) : Warned records entry := by
  induction records using List.reverseRecOn with
  | nil => cases said
  | append_singleton records raw ih =>
      rw [log_insertAll_concat, List.mem_append] at said
      rcases said with before | now
      · exact (ih before).concat raw
      · exact warned_of_insert now loud

end Run

end RouteTable

end RouteAtlas
