import RouteAtlas.Proofs.Unit.Tables
import RouteAtlas.Route.Document

/-! # Views of a route table

The group units, the root, the providers and the route documents of a table show its records, each
by a walk of its own. No record is lost or shown twice, and the views agree on the groups and on the
order within them.
-/

namespace RouteAtlas

namespace GeneratedUnit

/-- The group that a unit is made for. -/
def groupName? (unit : GeneratedUnit) : Option String :=
  match unit.body with
  | .group name _ => some name
  | _ => none

/-- The routes of the group that a unit is made for, in order. -/
def routes (unit : GeneratedUnit) : List RouteRecord :=
  match unit.body with
  | .group _ routes => routes
  | _ => []

end GeneratedUnit

namespace RouteTable

variable {table : RouteTable} {module : String}

theorem mem_groupUnits {unit : GeneratedUnit} :
    unit ∈ table.groupUnits ↔ ∃ entry ∈ table.listing,
      unit = ⟨.group entry.1, .group entry.1 entry.2, targetNames entry.2⟩ := by
  simp only [groupUnits, List.mem_map, eq_comm]

theorem records_listing (table : RouteTable) :
    table.listing.flatMap Prod.snd = table.records := by
  rw [listing, records, SortedMap.values, List.flatMap_map, List.flatMap_map]

theorem routes_groupUnits (table : RouteTable) :
    table.groupUnits.flatMap GeneratedUnit.routes = table.records := by
  rw [← records_listing, groupUnits, List.flatMap_map]
  rfl

theorem groupNames_groupUnits (table : RouteTable) :
    table.groupUnits.map GeneratedUnit.groupName? = table.groupNames.map some := by
  rw [← names_listing, groupUnits, List.map_map, List.map_map]
  rfl

/-- In a group the slots go by path, so the records do. -/
theorem paths_listing (wellFormed : table.WellFormed) {name : String} {records : List RouteRecord}
    (listed : (name, records) ∈ table.listing) :
    records.Pairwise fun a b => a.path ≤ b.path := by
  obtain ⟨⟨_, paths⟩, filed, same⟩ := List.mem_map.mp listed
  cases same
  have placed : ∀ entry ∈ paths.entries, ∀ record ∈ entry.2, record.path = entry.1 := by
    intro entry held record member
    exact (wellFormed.filed (slot_of_mem filed held ▸ member)).2
  rw [SortedMap.values, List.flatMap_map, List.pairwise_flatMap]
  constructor
  · intro entry held
    apply List.pairwise_of_forall_mem_list
    intro a aIn b bIn
    have same : a.path = b.path :=
      (placed entry held a aIn).trans (placed entry held b bIn).symm
    exact same ▸ String.le_refl a.path
  · refine paths.ascending.imp_of_mem fun {first second} firstIn secondIn below a aIn b bIn => ?_
    rw [placed first firstIn a aIn, placed second secondIn b bIn]
    exact String.not_lt.mp fun above => LinearKey.irrefl _ (LinearKey.trans below above)

/-- What a unit of a group lists are the records of that group. -/
theorem groupName_listing (wellFormed : table.WellFormed) {name : String}
    {records : List RouteRecord} (listed : (name, records) ∈ table.listing) {record : RouteRecord}
    (member : record ∈ records) : record.groupName = name := by
  obtain ⟨⟨_, paths⟩, filed, same⟩ := List.mem_map.mp listed
  cases same
  obtain ⟨slot, slotIn, member⟩ := List.mem_flatMap.mp member
  obtain ⟨entry, held, rfl⟩ := List.mem_map.mp slotIn
  exact (wellFormed.filed (slot_of_mem filed held ▸ member)).1

theorem nodup_records (wellFormed : table.WellFormed) : table.records.Nodup :=
  List.Nodup.of_map _ wellFormed.nodup_targets

theorem shown_once (wellFormed : table.WellFormed) {record : RouteRecord}
    (member : record ∈ table.records) :
    ∃ unit ∈ table.groupUnits, unit.groupName? = some record.groupName ∧
      unit.routes.count record = 1 ∧
        ∀ other ∈ table.groupUnits, record ∈ other.routes → other = unit := by
  have distinct := nodup_records wellFormed
  rw [← routes_groupUnits] at member distinct
  obtain ⟨unit, made, shown⟩ := List.mem_flatMap.mp member
  have own : ∀ other ∈ table.groupUnits, record ∈ other.routes →
      other.groupName? = some record.groupName := by
    intro other otherMade otherShown
    obtain ⟨entry, listed, rfl⟩ := mem_groupUnits.mp otherMade
    exact congrArg some (groupName_listing wellFormed listed otherShown).symm
  have apart : (table.groupUnits.map GeneratedUnit.groupName?).Nodup := by
    rw [groupNames_groupUnits]
    exact (SortedMap.nodup_keys table.groups).map fun _ _ => Option.some.inj
  refine ⟨unit, made, own unit made shown, ?_, ?_⟩
  · exact List.count_eq_one_of_mem ((List.nodup_flatMap.mp distinct).1 unit made) shown
  · intro other otherMade otherShown
    apply List.inj_on_of_nodup_map apart otherMade made
    rw [own other otherMade otherShown, own unit made shown]

theorem mem_groupNames (wellFormed : table.WellFormed) {name : String} :
    name ∈ table.groupNames ↔ ∃ record ∈ table.records, record.groupName = name := by
  constructor
  · intro known
    obtain ⟨⟨_, paths⟩, filed, rfl⟩ := List.mem_map.mp known
    obtain ⟨path, held⟩ := exists_slot wellFormed.full filed
    obtain ⟨record, stored⟩ := List.exists_mem_of_ne_nil _ held
    exact ⟨record, mem_records.mpr ⟨_, _, stored⟩, (wellFormed.filed stored).1⟩
  · rintro ⟨record, member, rfl⟩
    obtain ⟨paths, filed, -⟩ := entries_of_mem_slot (wellFormed.filed_records member)
    exact List.mem_map_of_mem filed

section Providers

/-- Providers in order: by path, and under one path by the name of the class. -/
def ProviderBelow (a b : RouteRecord) : Prop :=
  a.path < b.path ∨ a.path = b.path ∧ a.target.name ≤ b.target.name

theorem providerOrder_iff {a b : RouteRecord} : providerOrder a b = true ↔ ProviderBelow a b := by
  simp [providerOrder, ProviderBelow]

theorem ProviderBelow.trans {a b c : RouteRecord} (first : ProviderBelow a b)
    (second : ProviderBelow b c) : ProviderBelow a c := by
  rcases first with below | ⟨same, name⟩ <;> rcases second with above | ⟨again, other⟩
  · exact .inl (LinearKey.trans below above)
  · exact .inl (again ▸ below)
  · exact .inl (same ▸ above)
  · exact .inr ⟨same.trans again, String.le_trans name other⟩

theorem ProviderBelow.total (a b : RouteRecord) : ProviderBelow a b ∨ ProviderBelow b a := by
  rcases LinearKey.trichotomy a.path b.path with below | same | above
  · exact .inl (.inl below)
  · rcases String.le_total a.target.name b.target.name with first | second
    · exact .inl (.inr ⟨same, first⟩)
    · exact .inr (.inr ⟨same.symm, second⟩)
  · exact .inr (.inl above)

theorem providers_ascending (table : RouteTable) : table.providers.Pairwise ProviderBelow := by
  have trans : ∀ a b c, providerOrder a b = true → providerOrder b c = true →
      providerOrder a c = true := by
    intro a b c
    simp only [providerOrder_iff]
    exact ProviderBelow.trans
  have total : ∀ a b, (providerOrder a b || providerOrder b a) = true := by
    intro a b
    rw [Bool.or_eq_true, providerOrder_iff, providerOrder_iff]
    exact ProviderBelow.total a b
  exact (List.pairwise_mergeSort trans total _).imp providerOrder_iff.mp

end Providers

/-- The units and documents of a table show its records, each in its place. -/
structure Views (module : String) (table : RouteTable) : Prop where
  /-- The groups are those of the records, each named once. -/
  groups : ∀ name, name ∈ table.groupNames ↔ ∃ record ∈ table.records, record.groupName = name
  ascending : table.groupNames.Pairwise (· < ·)
  units : table.groupUnits.map GeneratedUnit.groupName? = table.groupNames.map some
  keys : table.groupUnits.map GeneratedUnit.key = table.groupNames.map UnitKey.group
  whole : table.groupUnits.flatMap GeneratedUnit.routes = table.records
  /-- A record is shown by the unit of its group, once, and by no other one. -/
  once : ∀ record ∈ table.records, ∃ unit ∈ table.groupUnits,
    unit.groupName? = some record.groupName ∧ unit.routes.count record = 1 ∧
      ∀ other ∈ table.groupUnits, record ∈ other.routes → other = unit
  paths : ∀ unit ∈ table.groupUnits, unit.routes.Pairwise fun a b => a.path ≤ b.path
  root : (table.rootUnit module).body =
    .root (table.groupNames.zip (table.groupUnits.map GeneratedUnit.key))
  /-- Each provider goes by its path first, and then by the names of its contracts. -/
  providers : ∃ providers,
    providers.Perm (table.records.filter fun record => decide (record.kind = .provider)) ∧
      providers.Pairwise ProviderBelow ∧
      (table.providerUnit module).body = .providers (providers.flatMap fun record =>
        (record.path, record) :: record.providerKeys.map (·, record)) ∧
      (table.providerUnit module).originating = targetNames providers
  docs : table.docs.map (fun group =>
      (some group.1, group.2.map fun doc => (doc.group, doc.path, doc.className))) =
    table.groupUnits.map fun unit => (unit.groupName?,
      unit.routes.map fun record => (record.groupName, record.path, record.target.name))
  originating : (∀ unit ∈ table.groupUnits, unit.originating = targetNames unit.routes) ∧
    (table.rootUnit module).originating = table.groupUnits.flatMap GeneratedUnit.originating

/-- All views of a table that insertions and merges lead to are exact. -/
theorem views_of_reached {history : List RouteRecord} {table : RouteTable}
    (reached : Reached history table) (module : String) : Views module table where
  groups := fun _ => mem_groupNames reached.wellFormed
  ascending := table.groups.keys_ascending
  units := groupNames_groupUnits table
  keys := keys_groupUnits table
  whole := routes_groupUnits table
  once := fun _ => shown_once reached.wellFormed
  paths := by
    intro unit made
    obtain ⟨entry, listed, rfl⟩ := mem_groupUnits.mp made
    exact paths_listing reached.wellFormed listed
  root := by
    rw [keys_groupUnits, ← List.map_prod_left_eq_zip]
    rfl
  providers := ⟨table.providers, List.mergeSort_perm _ _, providers_ascending table, rfl, rfl⟩
  docs := by
    rw [docs, groupUnits, List.map_map, List.map_map]
    refine List.map_congr_left fun entry _ => ?_
    exact congrArg (some entry.1, ·) (List.map_map)
  originating := by
    constructor
    · intro unit made
      obtain ⟨entry, -, rfl⟩ := mem_groupUnits.mp made
      rfl
    · change targetNames table.records = _
      rw [← records_listing, targetNames, List.map_flatMap, groupUnits, List.flatMap_map]
      rfl

/-- A provider that shares its path with a screen, and one of another group that has moved there. -/
private def sharedPath : List RouteRecord :=
  [{ path := "/main/page", kind := .screen, target := .named "app.Page" },
    { path := "/main/page", kind := .provider, target := .named "app.Cart",
      providerKeys := ["app.Api", "app.Cart"] },
    { path := "/user/old", kind := .provider, target := .named "app.Account" },
    { path := "/lib/account", kind := .provider, target := .named "app.Account" }]

theorem views_of_shared :
    let table := (RouteTable.empty.insertAll sharedPath).table
    Reached sharedPath table ∧ Views "app" table ∧
      table.groupUnits.map (fun unit => (unit.groupName?, targetNames unit.routes)) =
        [(some "lib", ["app.Account"]), (some "main", ["app.Page", "app.Cart"])] := by
  intro table
  have reached : Reached sharedPath table := .insertAll .empty sharedPath
  exact ⟨reached, views_of_reached reached "app", by decide +kernel⟩

end RouteTable

end RouteAtlas
