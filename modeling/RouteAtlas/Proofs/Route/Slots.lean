import RouteAtlas.Proofs.SortedMap
import RouteAtlas.Route.Table

/-! # Slots of a route table

A table is looked at slot by slot. A table without empty groups and slots is determined by its
slots, and inserting a record places it in its own slot and takes its class out of all others.
-/

namespace RouteAtlas

namespace RouteSlot

/-- The classes of a slot, in order. -/
def targets (slot : RouteSlot) : List TypeRef := slot.map RouteRecord.target

theorem place_ne_nil (record : RouteRecord) (slot : RouteSlot) : place record slot ≠ [] := by
  cases slot with
  | nil => simp [place]
  | cons head rest => rw [place]; split <;> simp

theorem targets_place (record : RouteRecord) (slot : RouteSlot) :
    targets (place record slot) =
      if record.target ∈ slot.targets then slot.targets else slot.targets ++ [record.target] := by
  unfold targets
  induction slot with
  | nil => simp [place]
  | cons head rest ih =>
      by_cases same : head.target = record.target
      · simp [place, same]
      · simp only [place, same, if_false, List.map_cons, List.mem_cons, Ne.symm same, false_or, ih]
        split <;> rfl

theorem nodup_place {record : RouteRecord} {slot : RouteSlot} (distinct : slot.targets.Nodup) :
    (targets (place record slot)).Nodup := by
  rw [targets_place]
  split
  · exact distinct
  · rename_i absent
    exact List.nodup_append.mpr ⟨distinct, by simp, fun target held other single same =>
      absent (List.mem_singleton.mp single ▸ same ▸ held)⟩

/-- Placing a record drops the one that its class had in the slot, and no other. -/
theorem mem_place {record other : RouteRecord} {slot : RouteSlot} (distinct : slot.targets.Nodup) :
    other ∈ place record slot ↔ other = record ∨ (other ∈ slot ∧ other.target ≠ record.target) := by
  induction slot with
  | nil => simp [place]
  | cons head rest ih =>
      obtain ⟨headAbsent, restDistinct⟩ := List.nodup_cons.mp distinct
      by_cases same : head.target = record.target
      · have restOthers : other ∈ rest → other.target ≠ record.target := fun member again =>
          headAbsent (same ▸ again ▸ List.mem_map_of_mem member)
        simp only [place, same, if_true, List.mem_cons]
        constructor
        · rintro (rfl | later)
          · exact .inl rfl
          · exact .inr ⟨.inr later, restOthers later⟩
        · rintro (rfl | ⟨rfl | later, different⟩)
          · exact .inl rfl
          · exact absurd same different
          · exact .inr later
      · simp only [place, same, if_false, List.mem_cons, ih restDistinct]
        constructor
        · rintro (rfl | rfl | ⟨later, different⟩)
          · exact .inr ⟨.inl rfl, same⟩
          · exact .inl rfl
          · exact .inr ⟨.inr later, different⟩
        · rintro (rfl | ⟨rfl | later, different⟩)
          · exact .inr (.inl rfl)
          · exact .inl rfl
          · exact .inr (.inr ⟨later, different⟩)

/-- Placing a record that the slot holds already changes nothing. -/
theorem place_of_mem {record : RouteRecord} {slot : RouteSlot} (distinct : slot.targets.Nodup)
    (member : record ∈ slot) : place record slot = slot := by
  induction slot with
  | nil => simp at member
  | cons head rest ih =>
      obtain ⟨headAbsent, restDistinct⟩ := List.nodup_cons.mp distinct
      rcases List.mem_cons.mp member with rfl | later
      · simp [place]
      · have different : head.target ≠ record.target := fun same =>
          headAbsent (same ▸ List.mem_map_of_mem later)
        simp [place, different, ih restDistinct later]

/-- A record of a class that is new to the slot goes to its end. -/
theorem place_of_not_mem {record : RouteRecord} {slot : RouteSlot}
    (absent : record.target ∉ slot.targets) : place record slot = slot ++ [record] := by
  induction slot with
  | nil => rfl
  | cons head rest ih =>
      simp only [targets, List.map_cons, List.mem_cons, not_or] at absent
      simp [place, Ne.symm absent.1, ih absent.2]

/-- Another class may leave a slot before a record is placed in it, or afterwards. -/
theorem filter_place {record : RouteRecord} {target : TypeRef} (other : record.target ≠ target)
    (slot : RouteSlot) :
    (place record slot).filter (fun r => decide (r.target ≠ target)) =
      place record (slot.filter fun r => decide (r.target ≠ target)) := by
  induction slot with
  | nil => simp [place, other]
  | cons head rest ih =>
      by_cases same : head.target = record.target
      · simp [place, same, other]
      · rw [place, if_neg same]
        by_cases leaving : head.target = target
        · rw [List.filter_cons_of_neg (by simpa using leaving), ih,
            List.filter_cons_of_neg (by simpa using leaving)]
        · rw [List.filter_cons_of_pos (by simpa using leaving), ih,
            List.filter_cons_of_pos (by simpa using leaving), place, if_neg same]

end RouteSlot

namespace RouteTable

/-- No group is without paths and no path without records. -/
structure Full (table : RouteTable) : Prop where
  group : ∀ {name paths}, (name, paths) ∈ table.groups.entries → paths.isEmpty = false
  slot : ∀ {name paths path slot}, (name, paths) ∈ table.groups.entries →
    (path, slot) ∈ paths.entries → slot ≠ []

theorem slot_of_entries {table : RouteTable} {name : String} {paths : SortedMap String RouteSlot}
    (filed : (name, paths) ∈ table.groups.entries) (path : String) :
    table.slot name path = (paths.get? path).getD [] := by
  simp [slot, RouteTable.paths, SortedMap.get?_eq_some_iff.mpr filed]

theorem slot_of_mem {table : RouteTable} {name path : String} {paths : SortedMap String RouteSlot}
    {slot : RouteSlot} (filed : (name, paths) ∈ table.groups.entries)
    (held : (path, slot) ∈ paths.entries) : table.slot name path = slot := by
  simp [slot_of_entries filed, SortedMap.get?_eq_some_iff.mpr held]

/-- A record lies in a slot only if the group and the path of the slot are there. -/
theorem entries_of_mem_slot {table : RouteTable} {name path : String} {record : RouteRecord}
    (member : record ∈ table.slot name path) :
    ∃ paths, (name, paths) ∈ table.groups.entries ∧ (path, table.slot name path) ∈ paths.entries := by
  cases found : table.groups.get? name with
  | none => simp [slot, paths, found] at member
  | some paths =>
      have filed := SortedMap.get?_eq_some_iff.mp found
      refine ⟨paths, filed, ?_⟩
      rw [slot_of_entries filed] at member ⊢
      cases held : paths.get? path with
      | none => simp [held] at member
      | some slot => simpa using SortedMap.get?_eq_some_iff.mp held

theorem mem_records {table : RouteTable} {record : RouteRecord} :
    record ∈ table.records ↔ ∃ name path, record ∈ table.slot name path := by
  simp only [records, SortedMap.values, List.mem_flatMap, List.mem_map]
  constructor
  · rintro ⟨_, ⟨⟨name, paths⟩, filed, rfl⟩, _, ⟨⟨path, slot⟩, held, rfl⟩, member⟩
    exact ⟨name, path, by simpa [slot_of_mem filed held] using member⟩
  · rintro ⟨name, path, member⟩
    obtain ⟨paths, filed, held⟩ := entries_of_mem_slot member
    exact ⟨paths, ⟨_, filed, rfl⟩, _, ⟨_, held, rfl⟩, member⟩

/-- A group of a full table has a path with records. -/
theorem exists_slot {table : RouteTable} (full : table.Full) {name : String}
    {paths : SortedMap String RouteSlot} (filed : (name, paths) ∈ table.groups.entries) :
    ∃ path, table.slot name path ≠ [] := by
  cases listed : paths.entries with
  | nil => simpa [SortedMap.isEmpty, listed] using full.group filed
  | cons entry rest =>
      have held : (entry.1, entry.2) ∈ paths.entries := by simp [listed]
      exact ⟨entry.1, slot_of_mem filed held ▸ full.slot filed held⟩

private theorem paths_of_slots {a b : RouteTable} (aFull : a.Full) (bFull : b.Full)
    (same : ∀ name path, a.slot name path = b.slot name path) {name : String}
    {paths : SortedMap String RouteSlot} (filed : a.groups.get? name = some paths) :
    b.groups.get? name = some paths := by
  have aFiled := SortedMap.get?_eq_some_iff.mp filed
  cases found : b.groups.get? name with
  | none =>
      obtain ⟨path, held⟩ := exists_slot aFull aFiled
      rw [same] at held
      simp [slot, RouteTable.paths, found] at held
  | some others =>
      have bFiled := SortedMap.get?_eq_some_iff.mp found
      refine congrArg some (SortedMap.ext_get? fun path => ?_)
      have slots := same name path
      rw [slot_of_entries aFiled, slot_of_entries bFiled] at slots
      cases inA : paths.get? path with
      | none =>
          cases inB : others.get? path with
          | none => rfl
          | some slot =>
              have held := SortedMap.get?_eq_some_iff.mp inB
              exact absurd (by simpa [inA, inB] using slots.symm) (bFull.slot bFiled held)
      | some slot =>
          have held := SortedMap.get?_eq_some_iff.mp inA
          cases inB : others.get? path with
          | none => exact absurd (by simpa [inA, inB] using slots) (aFull.slot aFiled held)
          | some other => simpa [inA, inB] using slots.symm

/-- Full tables with the same slots are equal. -/
theorem eq_of_slots {a b : RouteTable} (aFull : a.Full) (bFull : b.Full)
    (same : ∀ name path, a.slot name path = b.slot name path) : a = b := by
  have groups : a.groups = b.groups := by
    refine SortedMap.ext_get? fun name => Option.ext fun paths => ?_
    exact ⟨paths_of_slots aFull bFull same,
      paths_of_slots bFull aFull fun group path => (same group path).symm⟩
  cases a; cases b; simpa using groups

/-- A slot is left of what it was if only a slot with records counts. -/
private theorem getD_unless_isEmpty (slot : RouteSlot) :
    (if slot.isEmpty then none else some slot).getD [] = slot := by
  split
  · rename_i vacant
    exact (List.isEmpty_iff.mp vacant).symm
  · rfl

private theorem unless_isEmpty_eq_some {slot other : RouteSlot} :
    (if slot.isEmpty then none else some slot) = some other ↔ slot = other ∧ other ≠ [] := by
  constructor
  · intro made
    split at made
    · simp at made
    · rename_i kept
      cases made
      exact ⟨rfl, by simpa using kept⟩
  · rintro ⟨rfl, kept⟩
    simp [kept]

theorem slot_withoutTarget (table : RouteTable) (group path : String) (target : TypeRef)
    (name place : String) :
    (table.withoutTarget group path target).slot name place =
      if name = group ∧ place = path then table.slot name place
      else (table.slot name place).filter fun r => decide (r.target ≠ target) := by
  simp only [slot, paths, withoutTarget, SortedMap.get?_filterMap]
  cases table.groups.get? name with
  | none => simp
  | some paths =>
      simp only [Option.bind_some, SortedMap.getD_unless_isEmpty, SortedMap.get?_filterMap,
        Option.getD_some]
      cases paths.get? place with
      | none => simp
      | some slot => simp only [Option.bind_some, getD_unless_isEmpty, Option.getD_some]

theorem slot_put (table : RouteTable) (record : RouteRecord) (name path : String) :
    (table.put record).slot name path =
      if name = record.groupName ∧ path = record.path then
        RouteSlot.place record (table.slot name path)
      else table.slot name path := by
  by_cases group : name = record.groupName
  · by_cases here : path = record.path <;>
      simp [put, slot, paths, SortedMap.get?_insert, group, here]
  · simp [put, slot, paths, SortedMap.get?_insert, group]

theorem full_withoutTarget (table : RouteTable) (group path : String) (target : TypeRef) :
    (table.withoutTarget group path target).Full where
  group := by
    intro name paths filed
    have found := SortedMap.get?_eq_some_iff.mpr filed
    simp only [withoutTarget, SortedMap.get?_filterMap, Option.bind_eq_some_iff,
      SortedMap.unless_isEmpty_eq_some] at found
    obtain ⟨_, _, _, kept⟩ := found
    exact kept
  slot := by
    intro name paths place slot filed held
    have found := SortedMap.get?_eq_some_iff.mpr filed
    simp only [withoutTarget, SortedMap.get?_filterMap, Option.bind_eq_some_iff,
      SortedMap.unless_isEmpty_eq_some] at found
    obtain ⟨_, _, rfl, _⟩ := found
    have left := SortedMap.get?_eq_some_iff.mpr held
    simp only [SortedMap.get?_filterMap, Option.bind_eq_some_iff, unless_isEmpty_eq_some] at left
    obtain ⟨_, _, _, kept⟩ := left
    exact kept

theorem full_put {table : RouteTable} (full : table.Full) (record : RouteRecord) :
    (table.put record).Full where
  group := by
    intro name paths filed
    rcases SortedMap.mem_insert_iff.mp filed with ⟨_, rfl⟩ | ⟨_, old⟩
    · cases listed : (((table.paths record.groupName).insert record.path
        (RouteSlot.place record (table.slot record.groupName record.path))).entries) with
      | nil =>
          have held := SortedMap.get?_eq_some_iff.mp
            (SortedMap.get?_insert_self (table.paths record.groupName) record.path
              (RouteSlot.place record (table.slot record.groupName record.path)))
          simp [listed] at held
      | cons => simp [SortedMap.isEmpty, listed]
    · exact full.group old
  slot := by
    intro name paths path slot filed held
    rcases SortedMap.mem_insert_iff.mp filed with ⟨rfl, rfl⟩ | ⟨_, old⟩
    · rcases SortedMap.mem_insert_iff.mp held with ⟨_, rfl⟩ | ⟨_, before⟩
      · exact RouteSlot.place_ne_nil _ _
      · cases found : table.groups.get? record.groupName with
        | none => simp [RouteTable.paths, found, SortedMap.empty] at before
        | some others =>
            exact full.slot (SortedMap.get?_eq_some_iff.mp found)
              (by simpa [RouteTable.paths, found] using before)
    · exact full.slot old held

/-- The table that a valid record is inserted into, once its class is out of all other slots. -/
def filed (table : RouteTable) (record : RouteRecord) : RouteTable :=
  (table.withoutTarget record.groupName record.path record.target).put record

theorem table_insert (table : RouteTable) (record : RouteRecord) :
    (table.insert record).table =
      match record.validate with
      | .ok valid => table.filed valid
      | .error _ => table := by
  unfold insert
  cases record.validate <;> rfl

theorem exists_validate_of_accepted {table : RouteTable} {record : RouteRecord}
    (accepted : (table.insert record).accepted = true) :
    ∃ valid, record.validate = .ok valid := by
  unfold insert at accepted
  split at accepted
  · cases accepted
  · exact ⟨_, ‹_›⟩

theorem full_filed (table : RouteTable) (record : RouteRecord) : (table.filed record).Full :=
  full_put (full_withoutTarget ..) record

theorem slot_filed (table : RouteTable) (record : RouteRecord) (name path : String) :
    (table.filed record).slot name path =
      if name = record.groupName ∧ path = record.path then
        RouteSlot.place record (table.slot name path)
      else (table.slot name path).filter fun r => decide (r.target ≠ record.target) := by
  rw [filed, slot_put, slot_withoutTarget]
  split <;> rfl

end RouteTable

end RouteAtlas
