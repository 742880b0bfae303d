import RouteAtlas.Proofs.Route.Slots
import RouteAtlas.Proofs.Route.Validation

/-! # The last writer wins

A route table holds, for each class, the last record of that class that passed validation, filed
under the group and path of that record and nowhere else. Merging inserts the records of the other
table one after another, hence they win; a table merged with itself, or with an empty one on either
side, is the same table down to the order within its slots.
-/

namespace RouteAtlas

namespace RouteTable

/-- What insertion keeps of a table: its records are valid and filed in place, it has no empty
    groups or slots, and a class holds at most one record. -/
structure WellFormed (table : RouteTable) : Prop where
  full : table.Full
  filed : ∀ {name path record}, record ∈ table.slot name path →
    record.groupName = name ∧ record.path = path
  valid : ∀ {name path record}, record ∈ table.slot name path → record.Valid
  distinct : ∀ name path, (table.slot name path).targets.Nodup
  single : ∀ {name path record other place held}, record ∈ table.slot name path →
    held ∈ table.slot other place → record.target = held.target → name = other ∧ path = place

@[simp] theorem slot_empty (name path : String) : empty.slot name path = [] := rfl

theorem wellFormed_empty : empty.WellFormed where
  full := ⟨by simp [empty, SortedMap.empty], by simp [empty, SortedMap.empty]⟩
  filed := by simp
  valid := by simp
  distinct := by simp [RouteSlot.targets]
  single := by simp

/-- A record of a slot after filing is the filed one in its place, or an earlier one of another
    class. -/
theorem mem_slot_filed {table : RouteTable} (wellFormed : table.WellFormed)
    {record other : RouteRecord} {name path : String} :
    other ∈ (table.filed record).slot name path ↔
      (other = record ∧ name = record.groupName ∧ path = record.path) ∨
        (other ∈ table.slot name path ∧ other.target ≠ record.target) := by
  rw [slot_filed]
  split
  · rename_i here
    rw [RouteSlot.mem_place (wellFormed.distinct name path)]
    simp [here]
  · rename_i elsewhere
    simp [elsewhere]

theorem mem_records_filed {table : RouteTable} (wellFormed : table.WellFormed)
    {record other : RouteRecord} :
    other ∈ (table.filed record).records ↔
      other = record ∨ (other ∈ table.records ∧ other.target ≠ record.target) := by
  simp only [mem_records, mem_slot_filed wellFormed]
  constructor
  · rintro ⟨name, path, ⟨rfl, _⟩ | ⟨member, different⟩⟩
    · exact .inl rfl
    · exact .inr ⟨⟨name, path, member⟩, different⟩
  · rintro (rfl | ⟨⟨name, path, member⟩, different⟩)
    · exact ⟨_, _, .inl ⟨rfl, rfl, rfl⟩⟩
    · exact ⟨name, path, .inr ⟨member, different⟩⟩

theorem wellFormed_filed {table : RouteTable} (wellFormed : table.WellFormed)
    {record : RouteRecord} (valid : record.Valid) : (table.filed record).WellFormed where
  full := full_filed table record
  filed := by
    intro name path other member
    rcases (mem_slot_filed wellFormed).mp member with ⟨rfl, rfl, rfl⟩ | ⟨old, _⟩
    · exact ⟨rfl, rfl⟩
    · exact wellFormed.filed old
  valid := by
    intro name path other member
    rcases (mem_slot_filed wellFormed).mp member with ⟨rfl, _⟩ | ⟨old, _⟩
    · exact valid
    · exact wellFormed.valid old
  distinct := by
    intro name path
    rw [slot_filed]
    split
    · exact RouteSlot.nodup_place (wellFormed.distinct name path)
    · exact (wellFormed.distinct name path).sublist (List.filter_sublist.map _)
  single := by
    intro name path first other place second firstIn secondIn same
    rcases (mem_slot_filed wellFormed).mp firstIn with ⟨rfl, rfl, rfl⟩ | ⟨firstOld, firstOther⟩
    · rcases (mem_slot_filed wellFormed).mp secondIn with ⟨rfl, rfl, rfl⟩ | ⟨_, secondOther⟩
      · exact ⟨rfl, rfl⟩
      · exact absurd same.symm secondOther
    · rcases (mem_slot_filed wellFormed).mp secondIn with ⟨rfl, rfl, rfl⟩ | ⟨secondOld, _⟩
      · exact absurd same firstOther
      · exact wellFormed.single firstOld secondOld same

theorem wellFormed_insert {table : RouteTable} (wellFormed : table.WellFormed)
    (record : RouteRecord) : (table.insert record).table.WellFormed := by
  rw [table_insert]
  split
  · rename_i valid passed
    exact wellFormed_filed wellFormed (RouteRecord.valid_of_validate passed)
  · exact wellFormed

/-- The table after several insertions does not depend on what was counted and logged before. -/
private theorem table_foldl_insert (records : List RouteRecord) (batch : Batch) :
    (records.foldl Batch.insert batch).table =
      records.foldl (fun table record => (table.insert record).table) batch.table := by
  induction records generalizing batch with
  | nil => rfl
  | cons record rest ih => exact ih (batch.insert record)

theorem table_insertAll (table : RouteTable) (records : List RouteRecord) :
    (table.insertAll records).table =
      records.foldl (fun table record => (table.insert record).table) table :=
  table_foldl_insert records { table }

@[simp] theorem table_insertAll_nil (table : RouteTable) : (table.insertAll []).table = table := rfl

theorem table_insertAll_cons (table : RouteTable) (record : RouteRecord)
    (rest : List RouteRecord) :
    (table.insertAll (record :: rest)).table =
      ((table.insert record).table.insertAll rest).table := by
  simp only [table_insertAll, List.foldl_cons]

theorem table_insertAll_append (table : RouteTable) (first second : List RouteRecord) :
    (table.insertAll (first ++ second)).table =
      ((table.insertAll first).table.insertAll second).table := by
  simp only [table_insertAll, List.foldl_append]

theorem wellFormed_insertAll {table : RouteTable} (wellFormed : table.WellFormed)
    (records : List RouteRecord) : (table.insertAll records).table.WellFormed := by
  induction records generalizing table with
  | nil => exact wellFormed
  | cons record rest ih =>
      rw [table_insertAll_cons]
      exact ih (wellFormed_insert wellFormed record)

/-- The form in which a record is filed for a class, if it is valid and of that class. -/
def acceptedFor? (record : RouteRecord) (target : TypeRef) : Option RouteRecord :=
  match record.validate with
  | .ok valid => if valid.target = target then some valid else none
  | .error _ => none

/-- The form in which the last valid record of a class among the given ones is filed. -/
def lastAccepted : List RouteRecord → TypeRef → Option RouteRecord
  | [], _ => none
  | record :: rest, target => (lastAccepted rest target).or (acceptedFor? record target)

/-- What a table holds after an insertion, put by classes. -/
private theorem mem_records_insert {table : RouteTable} (wellFormed : table.WellFormed)
    {record other : RouteRecord} :
    other ∈ (table.insert record).table.records ↔
      acceptedFor? record other.target = some other ∨
        (acceptedFor? record other.target = none ∧ other ∈ table.records) := by
  rw [table_insert]
  cases passed : record.validate with
  | error => simp [acceptedFor?, passed]
  | ok valid =>
      simp only [acceptedFor?, passed, mem_records_filed wellFormed]
      by_cases same : valid.target = other.target
      · simp [same, @eq_comm _ valid]
      · have different : other ≠ valid := fun equal => same (equal ▸ rfl)
        simp [same, different, Ne.symm same]

/-- After insertions a class has the last valid record of its own, or else the one it had. -/
theorem mem_records_insertAll {table : RouteTable} (wellFormed : table.WellFormed)
    {records : List RouteRecord} {record : RouteRecord} :
    record ∈ (table.insertAll records).table.records ↔
      lastAccepted records record.target = some record ∨
        (lastAccepted records record.target = none ∧ record ∈ table.records) := by
  induction records generalizing table with
  | nil => simp [lastAccepted]
  | cons first rest ih =>
      rw [table_insertAll_cons, ih (wellFormed_insert wellFormed first),
        mem_records_insert wellFormed]
      simp only [lastAccepted]
      cases lastAccepted rest record.target <;> simp

theorem WellFormed.filed_records {table : RouteTable} (wellFormed : table.WellFormed)
    {record : RouteRecord} (member : record ∈ table.records) :
    record ∈ table.slot record.groupName record.path := by
  obtain ⟨name, path, held⟩ := mem_records.mp member
  obtain ⟨rfl, rfl⟩ := wellFormed.filed held
  exact held

theorem WellFormed.valid_records {table : RouteTable} (wellFormed : table.WellFormed)
    {record : RouteRecord} (member : record ∈ table.records) : record.Valid :=
  wellFormed.valid (wellFormed.filed_records member)

/-- Under one path the classes differ, and under different ones too. -/
theorem WellFormed.nodup_targets {table : RouteTable} (wellFormed : table.WellFormed) :
    (table.records.map RouteRecord.target).Nodup := by
  refine List.pairwise_map.mpr ?_
  simp only [records, SortedMap.values, List.flatMap_map]
  refine List.pairwise_flatMap.mpr ⟨?_, ?_⟩
  · rintro ⟨name, paths⟩ filed
    refine List.pairwise_flatMap.mpr ⟨?_, ?_⟩
    · rintro ⟨path, slot⟩ held
      have distinct := wellFormed.distinct name path
      rw [slot_of_mem filed held] at distinct
      exact List.pairwise_map.mp distinct
    · refine paths.ascending.imp_of_mem
        fun {a b} aIn bIn below first firstIn second secondIn same => ?_
      have firstHeld : first ∈ table.slot name a.1 := by rwa [slot_of_mem filed aIn]
      have secondHeld : second ∈ table.slot name b.1 := by rwa [slot_of_mem filed bIn]
      obtain ⟨_, paths⟩ := wellFormed.single firstHeld secondHeld same
      exact LinearKey.irrefl _ (paths ▸ below)
  · refine table.groups.ascending.imp_of_mem
      fun {a b} aIn bIn below first firstIn second secondIn same => ?_
    obtain ⟨aPath, aHeld, firstIn⟩ := List.mem_flatMap.mp firstIn
    obtain ⟨bPath, bHeld, secondIn⟩ := List.mem_flatMap.mp secondIn
    have firstHeld : first ∈ table.slot a.1 aPath.1 := by rwa [slot_of_mem aIn aHeld]
    have secondHeld : second ∈ table.slot b.1 bPath.1 := by rwa [slot_of_mem bIn bHeld]
    obtain ⟨names, _⟩ := wellFormed.single firstHeld secondHeld same
    exact LinearKey.irrefl _ (names ▸ below)

section Merging

/-- Of valid records of different classes each is the last of its class. -/
theorem lastAccepted_eq_some_iff {records : List RouteRecord}
    (valid : ∀ record ∈ records, record.Valid)
    (distinct : (records.map RouteRecord.target).Nodup) {target : TypeRef} {record : RouteRecord} :
    lastAccepted records target = some record ↔ record ∈ records ∧ record.target = target := by
  induction records generalizing record with
  | nil => simp [lastAccepted]
  | cons first rest ih =>
      obtain ⟨firstAbsent, restDistinct⟩ := List.nodup_cons.mp distinct
      have inRest : ∀ other, lastAccepted rest target = some other ↔
          other ∈ rest ∧ other.target = target := fun other =>
        ih (fun record member => valid record (List.mem_cons_of_mem _ member)) restDistinct
      have accepted : acceptedFor? first target =
          if first.target = target then some first else none := by
        simp [acceptedFor?, (valid first (by simp)).validate]
      simp only [lastAccepted, Option.or_eq_some_iff, Option.eq_none_iff_forall_ne_some, ne_eq,
        inRest, accepted, List.mem_cons]
      constructor
      · rintro (⟨later, same⟩ | ⟨_, here⟩)
        · exact ⟨.inr later, same⟩
        · split at here
          · rename_i same
            cases here
            exact ⟨.inl rfl, same⟩
          · simp at here
      · rintro ⟨rfl | later, rfl⟩
        · refine .inr ⟨fun other known => firstAbsent ?_, by simp⟩
          exact known.2 ▸ List.mem_map_of_mem known.1
        · exact .inl ⟨later, rfl⟩

theorem WellFormed.lastAccepted_records {table : RouteTable} (wellFormed : table.WellFormed)
    {target : TypeRef} {record : RouteRecord} :
    lastAccepted table.records target = some record ↔
      record ∈ table.records ∧ record.target = target :=
  lastAccepted_eq_some_iff (fun _ member => wellFormed.valid_records member)
    wellFormed.nodup_targets

/-- The records of the other table win. -/
theorem mem_records_merge {table other : RouteTable} (wellFormed : table.WellFormed)
    (others : other.WellFormed) {record : RouteRecord} :
    record ∈ (table.merge other).table.records ↔
      record ∈ other.records ∨
        (record ∈ table.records ∧ ∀ held ∈ other.records, held.target ≠ record.target) := by
  rw [merge, mem_records_insertAll wellFormed, others.lastAccepted_records,
    Option.eq_none_iff_forall_ne_some]
  simp only [ne_eq, others.lastAccepted_records]
  grind

/-- Filing a record that the table holds already changes nothing. -/
theorem filed_of_mem {table : RouteTable} (wellFormed : table.WellFormed) {record : RouteRecord}
    (member : record ∈ table.records) : table.filed record = table := by
  refine eq_of_slots (full_filed table record) wellFormed.full fun name path => ?_
  have held := wellFormed.filed_records member
  rw [slot_filed]
  split
  · rename_i here
    obtain ⟨rfl, rfl⟩ := here
    exact RouteSlot.place_of_mem (wellFormed.distinct _ _) held
  · rename_i elsewhere
    refine List.filter_eq_self.mpr fun other otherHeld => ?_
    simp only [decide_eq_true_eq]
    exact fun same => elsewhere (wellFormed.single otherHeld held same)

theorem insertAll_of_subset {table : RouteTable} (wellFormed : table.WellFormed)
    {records : List RouteRecord} (held : ∀ record ∈ records, record ∈ table.records) :
    (table.insertAll records).table = table := by
  induction records with
  | nil => rfl
  | cons record rest ih =>
      have member := held record (by simp)
      rw [table_insertAll_cons, table_insert, (wellFormed.valid_records member).validate]
      simp only [filed_of_mem wellFormed member]
      exact ih fun other later => held other (List.mem_cons_of_mem _ later)

theorem merge_self {table : RouteTable} (wellFormed : table.WellFormed) :
    (table.merge table).table = table :=
  insertAll_of_subset wellFormed fun _ member => member

theorem merge_empty (table : RouteTable) : (table.merge empty).table = table := rfl

/-- Whether a record belongs under a group and path. -/
def belongs (name path : String) (record : RouteRecord) : Bool :=
  decide (record.groupName = name ∧ record.path = path)

/-- The records of a well-formed table that belong to a slot are that slot, in its order. -/
theorem filter_records {table : RouteTable} (wellFormed : table.WellFormed) (name path : String) :
    table.records.filter (belongs name path) = table.slot name path := by
  have whole : ∀ {group paths place slot}, (group, paths) ∈ table.groups.entries →
      (place, slot) ∈ paths.entries →
      slot.filter (belongs name path) = if group = name ∧ place = path then slot else [] := by
    intro group paths place slot groupIn slotIn
    have same : ∀ record ∈ slot, record.groupName = group ∧ record.path = place :=
      fun record member => wellFormed.filed (slot_of_mem groupIn slotIn ▸ member)
    split
    · rename_i here
      refine List.filter_eq_self.mpr fun record member => ?_
      simpa [belongs, here.1, here.2] using same record member
    · rename_i elsewhere
      refine List.filter_eq_nil_iff.mpr fun record member => ?_
      obtain ⟨rfl, rfl⟩ := same record member
      simpa [belongs] using elsewhere
  simp only [records, SortedMap.values, List.flatMap_map, List.filter_flatMap]
  rw [SortedMap.flatMap_entries table.groups name
    (fun _ paths => paths.entries.flatMap fun entry => entry.2.filter (belongs name path))]
  · cases found : table.groups.get? name with
    | none => simp [slot, paths, found]
    | some paths =>
        have groupIn := SortedMap.get?_eq_some_iff.mp found
        rw [Option.map_some, Option.getD_some, slot_of_entries groupIn,
          SortedMap.flatMap_entries paths path (fun _ slot => slot.filter (belongs name path))]
        · cases held : paths.get? path with
          | none => rfl
          | some slot => simp [whole groupIn (SortedMap.get?_eq_some_iff.mp held)]
        · rintro ⟨place, slot⟩ slotIn elsewhere
          simp [whole groupIn slotIn, elsewhere]
  · rintro ⟨group, paths⟩ groupIn elsewhere
    refine List.flatMap_eq_nil_iff.mpr ?_
    rintro ⟨place, slot⟩ slotIn
    simp [whole groupIn slotIn, elsewhere]

theorem slot_filed_fresh {table : RouteTable} {record : RouteRecord}
    (fresh : ∀ held ∈ table.records, held.target ≠ record.target) (name path : String) :
    (table.filed record).slot name path =
      table.slot name path ++ [record].filter (belongs name path) := by
  have unknown : ∀ {group place}, ∀ held ∈ table.slot group place, held.target ≠ record.target :=
    fun held member => fresh held (mem_records.mpr ⟨_, _, member⟩)
  rw [slot_filed]
  split
  · rename_i here
    rw [RouteSlot.place_of_not_mem]
    · simp [belongs, here]
    · intro known
      obtain ⟨held, member, same⟩ := List.mem_map.mp known
      exact unknown held member same
  · rename_i elsewhere
    have apart : belongs name path record = false := by
      simpa [belongs, @eq_comm _ record.groupName, @eq_comm _ record.path] using elsewhere
    rw [List.filter_eq_self.mpr fun held member => by simpa using unknown held member]
    simp [apart]

/-- Valid records of different classes that a table does not know go to the ends of its slots. -/
theorem slot_insertAll_fresh {table : RouteTable} (wellFormed : table.WellFormed)
    {records : List RouteRecord} (valid : ∀ record ∈ records, record.Valid)
    (distinct : (records.map RouteRecord.target).Nodup)
    (fresh : ∀ held ∈ table.records, held.target ∉ records.map RouteRecord.target)
    (name path : String) :
    (table.insertAll records).table.slot name path =
      table.slot name path ++ records.filter (belongs name path) := by
  induction records generalizing table with
  | nil => simp
  | cons record rest ih =>
      obtain ⟨absent, restDistinct⟩ := List.nodup_cons.mp distinct
      have recordValid := valid record (by simp)
      have unknown : ∀ held ∈ table.records, held.target ≠ record.target :=
        fun held member same => fresh held member (by simp [same])
      rw [table_insertAll_cons, table_insert, recordValid.validate]
      simp only
      rw [ih (wellFormed_filed wellFormed recordValid)
        (fun other later => valid other (List.mem_cons_of_mem _ later)) restDistinct ?_,
        slot_filed_fresh unknown, List.append_assoc, ← List.filter_append, List.singleton_append]
      intro held member
      rcases (mem_records_filed wellFormed).mp member with rfl | ⟨old, _⟩
      · exact absent
      · exact fun later => fresh held old (List.mem_cons_of_mem _ later)

theorem empty_merge {table : RouteTable} (wellFormed : table.WellFormed) :
    (empty.merge table).table = table := by
  refine eq_of_slots (wellFormed_insertAll wellFormed_empty _).full wellFormed.full
    fun name path => ?_
  rw [merge, slot_insertAll_fresh wellFormed_empty
    (fun _ member => wellFormed.valid_records member) wellFormed.nodup_targets
    (fun _ held => by simp [mem_records] at held), filter_records wellFormed, slot_empty,
    List.nil_append]

end Merging

/-- The tables that insertions and merges lead to from the empty one, with the records that were
    inserted on the way, refused ones among them. A merge inserts the records of the other table. -/
inductive Reached : List RouteRecord → RouteTable → Prop where
  | empty : Reached [] .empty
  | insert {history table} (record : RouteRecord) :
    Reached history table → Reached (history ++ [record]) (table.insert record).table
  | merge {history table others other} :
    Reached history table → Reached others other →
      Reached (history ++ other.records) (table.merge other).table

theorem Reached.wellFormed {history : List RouteRecord} {table : RouteTable}
    (reached : Reached history table) : table.WellFormed := by
  induction reached with
  | empty => exact wellFormed_empty
  | insert record _ ih => exact wellFormed_insert ih record
  | merge _ _ ih _ => exact wellFormed_insertAll ih _

/-- The table of a history is that of its insertions, one after another. -/
theorem Reached.table_eq {history : List RouteRecord} {table : RouteTable}
    (reached : Reached history table) : table = (RouteTable.empty.insertAll history).table := by
  -- A merge is an insertion of records as well, so it lengthens the history of its first table only.
  induction reached with
  | empty => rfl
  | insert record _ ih => rw [table_insertAll_append, ← ih]; rfl
  | merge _ _ ih _ => rw [table_insertAll_append, ← ih, RouteTable.merge]

theorem Reached.insertAll {history : List RouteRecord} {table : RouteTable}
    (reached : Reached history table) (records : List RouteRecord) :
    Reached (history ++ records) (table.insertAll records).table := by
  induction records generalizing history table with
  | nil => simpa using reached
  | cons record rest ih =>
      rw [table_insertAll_cons, ← List.singleton_append, ← List.append_assoc]
      exact ih (.insert record reached)

theorem Reached.mem_records {history : List RouteRecord} {table : RouteTable}
    (reached : Reached history table) {record : RouteRecord} :
    record ∈ table.records ↔ lastAccepted history record.target = some record := by
  rw [reached.table_eq, mem_records_insertAll wellFormed_empty]
  simp [RouteTable.mem_records]

theorem Full.isEmpty_iff {table : RouteTable} (full : table.Full) :
    table.isEmpty = true ↔ table.size = 0 := by
  constructor
  · intro vacant
    simp [size, records, SortedMap.values, List.isEmpty_iff.mp vacant]
  · intro none
    have vacant : table.records = [] := List.length_eq_zero_iff.mp none
    refine List.isEmpty_iff.mpr (List.eq_nil_iff_forall_not_mem.mpr ?_)
    rintro ⟨name, paths⟩ filed
    obtain ⟨path, held⟩ := exists_slot full filed
    obtain ⟨record, member⟩ := List.exists_mem_of_ne_nil _ held
    have stored : record ∈ table.records := RouteTable.mem_records.mpr ⟨name, path, member⟩
    simp [vacant] at stored

/-- A table is a store in which the last valid record of each class stands, alone and in place. -/
structure KeepsLast (history : List RouteRecord) (table : RouteTable) : Prop where
  filed : ∀ {name paths path slot record}, (name, paths) ∈ table.groups.entries →
    (path, slot) ∈ paths.entries → record ∈ slot → record.groupName = name ∧ record.path = path
  rooted : ∀ record ∈ table.records, isRooted record.path = true
  worded : ∀ record ∈ table.records, record.groupName ≠ "" ∧ isGroupName record.groupName = true
  full : table.Full
  vacant : table.isEmpty = true ↔ table.size = 0
  single : (table.records.map RouteRecord.target).Nodup
  last : ∀ record, record ∈ table.records ↔ lastAccepted history record.target = some record
  accepts : ∀ record, (table.insert record).accepted = true ↔ ∃ valid, record.validate = .ok valid
  refuses : ∀ record, (table.insert record).accepted = false → (table.insert record).table = table
  merges : ∀ {others other}, Reached others other → ∀ record,
    record ∈ (table.merge other).table.records ↔
      record ∈ other.records ∨
        (record ∈ table.records ∧ ∀ held ∈ other.records, held.target ≠ record.target)
  mergesSelf : (table.merge table).table = table
  mergesEmpty : (table.merge .empty).table = table
  emptyMerges : (RouteTable.empty.merge table).table = table

/-- Every table that insertions and merges lead to keeps the last writers. -/
theorem keepsLast_of_reached {history : List RouteRecord} {table : RouteTable}
    (reached : Reached history table) : KeepsLast history table where
  filed := fun groupIn slotIn member =>
    reached.wellFormed.filed (slot_of_mem groupIn slotIn ▸ member)
  rooted := fun _ member => (reached.wellFormed.valid_records member).rooted
  worded := fun _ member =>
    ⟨(reached.wellFormed.valid_records member).named,
      (reached.wellFormed.valid_records member).worded⟩
  full := reached.wellFormed.full
  vacant := reached.wellFormed.full.isEmpty_iff
  single := reached.wellFormed.nodup_targets
  last := fun _ => reached.mem_records
  accepts := by
    intro record
    unfold insert
    cases record.validate <;> simp
  refuses := by
    intro record refused
    unfold insert at refused ⊢
    cases passed : record.validate with
    | error => rfl
    | ok => simp [passed] at refused
  merges := fun others _ => mem_records_merge reached.wellFormed others.wellFormed
  mergesSelf := merge_self reached.wellFormed
  mergesEmpty := merge_empty table
  emptyMerges := empty_merge reached.wellFormed

/-- A screen that is found under a path. -/
private def screenAt (path target : String) : RouteRecord :=
  { path, kind := .screen, target := .named target }

/-- A class that moves to another group leaves its old one empty, a refused record changes nothing,
    and a merge moves one class back. -/
theorem keepsLast_of_moves :
    let moves := [screenAt "/old/page" "app.Page", screenAt "/main/other" "app.Other",
      screenAt "/main/page" "app.Page", screenAt "lost" "app.Other"]
    let back := (RouteTable.empty.insertAll [screenAt "/new/other" "app.Other"]).table
    let table := ((RouteTable.empty.insertAll moves).table.merge back).table
    Reached (moves ++ back.records) table ∧ KeepsLast (moves ++ back.records) table ∧
      table.records.map RouteRecord.path = ["/main/page", "/new/other"] := by
  intro moves back table
  have reached : Reached (moves ++ back.records) table :=
    .merge (.insertAll .empty moves) (.insertAll .empty [screenAt "/new/other" "app.Other"])
  exact ⟨reached, keepsLast_of_reached reached, by decide +kernel⟩

end RouteTable

end RouteAtlas
