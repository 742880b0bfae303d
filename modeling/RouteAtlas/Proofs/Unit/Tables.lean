import RouteAtlas.Proofs.Route.LastWriter
import RouteAtlas.Proofs.Source.Root
import RouteAtlas.Proofs.Unit.Key

/-! # The tables of a module

The units that are made of the routes of a module are its root, its providers and one for each
group. Two tables whose roots have one source have units under the same names.
-/

namespace RouteAtlas

namespace RouteTable

variable {table other : RouteTable} {module : String} {unit : GeneratedUnit}

theorem mem_units :
    unit ∈ table.units module ↔
      (∃ entry ∈ table.listing,
        unit = ⟨.group entry.1, .group entry.1 entry.2, targetNames entry.2⟩) ∨
      unit = table.providerUnit module ∨ unit = table.rootUnit module := by
  simp only [units, groupUnits, List.mem_append, List.mem_map, List.mem_cons, List.not_mem_nil,
    or_false]
  simp only [eq_comm]

theorem names_listing (table : RouteTable) : table.listing.map Prod.fst = table.groupNames := by
  rw [listing, List.map_map]
  rfl

theorem keys_groupUnits (table : RouteTable) :
    table.groupUnits.map GeneratedUnit.key = table.groupNames.map UnitKey.group := by
  rw [← names_listing, groupUnits, List.map_map, List.map_map]
  rfl

theorem WellFormed.isGroupName (wellFormed : table.WellFormed) {name : String}
    (member : name ∈ table.groupNames) : isGroupName name = true := by
  obtain ⟨⟨_, paths⟩, entry, rfl⟩ := List.mem_map.mp member
  obtain ⟨path, held⟩ := exists_slot wellFormed.full entry
  obtain ⟨record, stored⟩ := List.exists_mem_of_ne_nil _ held
  rw [← (wellFormed.filed stored).1]
  exact (wellFormed.valid stored).worded

theorem WellFormed.isRouteKey (wellFormed : table.WellFormed)
    (member : unit ∈ table.units module) : IsRouteKey module unit.key := by
  rcases mem_units.mp member with ⟨entry, listed, rfl⟩ | rfl | rfl
  · apply IsRouteKey.group
    apply wellFormed.isGroupName
    rw [← names_listing]
    exact List.mem_map_of_mem listed
  · exact .providers
  · exact .root

theorem rootUnit_mem_units (module : String) (table : RouteTable) :
    table.rootUnit module ∈ table.units module :=
  mem_units.mpr (.inr (.inr rfl))

theorem exists_unit (same : table.groupNames = other.groupNames)
    (member : unit ∈ table.units module) : ∃ twin ∈ other.units module, twin.key = unit.key := by
  rcases mem_units.mp member with ⟨entry, listed, rfl⟩ | rfl | rfl
  · have known : entry.1 ∈ other.listing.map Prod.fst := by
      rw [names_listing, ← same, ← names_listing]
      exact List.mem_map_of_mem listed
    obtain ⟨twin, twinListed, named⟩ := List.mem_map.mp known
    exact ⟨_, mem_units.mpr (.inl ⟨twin, twinListed, rfl⟩), congrArg UnitKey.group named⟩
  · exact ⟨_, mem_units.mpr (.inr (.inl rfl)), rfl⟩
  · exact ⟨_, rootUnit_mem_units module other, rfl⟩

/-- The source of the root unit determines the groups. -/
theorem groupNames_eq_of_source {language : Language} (wellFormed : table.WellFormed)
    (otherWellFormed : other.WellFormed)
    (same : language.source (table.rootUnit module) = language.source (other.rootUnit module)) :
    table.groupNames = other.groupNames :=
  Language.rootBody_injective (fun _ => wellFormed.isGroupName)
    (fun _ => otherWellFormed.isGroupName) same

end RouteTable

end RouteAtlas
