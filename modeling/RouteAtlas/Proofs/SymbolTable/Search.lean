import RouteAtlas.Proofs.Diagnostic
import RouteAtlas.Proofs.SymbolTable
import RouteAtlas.Proofs.Text.LowerCase
import RouteAtlas.SymbolTable.Search

/-! # Searching declarations

A search lists annotated declarations in the order of the table, each once, and does not look at the
case of ASCII letters. It compares lower-case forms, though, and a capital sigma at the end of the
query may have another form in a name that goes on after it.
-/

namespace RouteAtlas

/-- A declaration is listed for an annotation of its own or of one of its properties. -/
theorem Declaration.isEmpty_markKinds (decl : Declaration) :
    decl.markKinds.isEmpty = !decl.isMarked := by
  have properties : decl.properties.any Property.isMarked =
      (decl.properties.any (·.wire.isSome) || decl.properties.any (·.param.isSome)) := by
    rw [Bool.eq_iff_iff]
    simp only [Property.isMarked, List.any_eq_true, Bool.or_eq_true, and_or_left, exists_or]
  unfold markKinds isMarked
  rw [properties]
  cases decl.marks.route.isSome <;> cases decl.marks.hook.isSome <;>
    cases decl.properties.any (·.wire.isSome) <;> cases decl.properties.any (·.param.isSome) <;> rfl

namespace SymbolTable

variable {table : SymbolTable} {query : String} {decl : Declaration}

/-- Whether a search lists a declaration. -/
def isHit (query : String) (decl : Declaration) : Bool :=
  Text.contains (Text.lower decl.qualifiedName) (Text.lower query) && decl.isMarked

theorem search_eq (table : SymbolTable) (query : String) :
    table.search query = (table.declarations.filter (isHit query)).map fun decl =>
      ⟨decl.qualifiedName, decl.markKinds⟩ := by
  rw [search, ← List.filterMap_eq_map, List.filterMap_filter]
  apply List.filterMap_congr
  intro decl _
  rw [Declaration.isEmpty_markKinds, Bool.not_not]
  rfl

/-- The names of the declarations that a search lists. -/
def found (table : SymbolTable) (query : String) : List String :=
  (table.search query).map SearchHit.qualifiedName

theorem found_eq (table : SymbolTable) (query : String) :
    table.found query = declarationNames (table.declarations.filter (isHit query)) := by
  rw [found, search_eq, List.map_map]
  rfl

theorem found_sublist (table : SymbolTable) (query : String) :
    (table.found query).Sublist table.names := by
  rw [found_eq]
  exact List.filter_sublist.map _

theorem nodup_found (table : SymbolTable) (query : String) : (table.found query).Nodup :=
  table.distinct.sublist (table.found_sublist query)

theorem mem_found_iff (declared : decl ∈ table.declarations) :
    decl.qualifiedName ∈ table.found query ↔ isHit query decl = true := by
  rw [found_eq]
  constructor
  · intro listed
    obtain ⟨twin, member, named⟩ := List.mem_map.mp listed
    obtain ⟨twinIn, hit⟩ := List.mem_filter.mp member
    rwa [← List.inj_on_of_nodup_map table.distinct twinIn declared named]
  · exact fun hit => List.mem_map_of_mem (List.mem_filter.mpr ⟨declared, hit⟩)

theorem isHit_iff :
    isHit query decl = true ↔ decl.isMarked = true ∧
      (Text.lower query).toList <:+: (Text.lower decl.qualifiedName).toList := by
  rw [isHit, Bool.and_eq_true, Text.contains_iff, and_comm]

/-- What holds of the search for a part of a name. -/
structure SearchLaw (table : SymbolTable) (query : String) : Prop where
  /-- Declarations are listed in the order of the table. -/
  ordered : (table.found query).Sublist table.names
  once : (table.found query).Nodup
  hits : ∀ hit ∈ table.search query, ∃ decl ∈ table.declarations,
    decl.isMarked = true ∧ hit = ⟨decl.qualifiedName, decl.markKinds⟩
  /-- A declaration is listed if it is annotated and the lower-case form of its name holds that of
      the query. -/
  found_iff : ∀ decl ∈ table.declarations, decl.qualifiedName ∈ table.found query ↔
    decl.isMarked = true ∧
      (Text.lower query).toList <:+: (Text.lower decl.qualifiedName).toList
  /-- That is so if its name holds the query at a place where no capital sigma of the query has
      another form than in the query. -/
  verbatim : ∀ decl ∈ table.declarations, decl.isMarked = true → ∀ before after,
    decl.qualifiedName = before ++ query ++ after → Text.SigmasStay before query after →
      (table.found query).count decl.qualifiedName = 1
  /-- There is no other place exactly if each capital sigma is settled in the query. -/
  everywhere_iff : (∀ before after, Text.SigmasStay before query after) ↔
    ∀ left right, query.toList = left ++ 'Σ' :: right → Text.IsSettled left.reverse right
  blind : ∀ other, Text.SameButForCase query other → table.search query = table.search other

/-- A search finds the names that hold the query unless a capital sigma keeps them apart. -/
theorem searchLaw_of_table (table : SymbolTable) (query : String) : SearchLaw table query where
  ordered := table.found_sublist query
  once := table.nodup_found query
  hits := by
    intro hit member
    rw [search_eq] at member
    obtain ⟨decl, kept, rfl⟩ := List.mem_map.mp member
    obtain ⟨declared, isHit⟩ := List.mem_filter.mp kept
    exact ⟨decl, declared, (isHit_iff.mp isHit).1, rfl⟩
  found_iff := fun decl declared => (mem_found_iff declared).trans isHit_iff
  verbatim := by
    intro decl declared marked before after held stay
    have within := stay.infix_lower
    rw [← held] at within
    have listed := (mem_found_iff declared).mpr (isHit_iff.mpr ⟨marked, within⟩)
    exact List.count_eq_one_of_mem (table.nodup_found query) listed
  everywhere_iff := Text.forall_sigmasStay_iff
  blind := by
    intro other same
    rw [search, search, same.lower_eq]

/-- A page whose name has a word inside that ends in a sigma where it stands alone. -/
private def lamps : SymbolTable :=
  .ofList [{ qualifiedName := "app.ΦΩΣΑΚΙ", marks := { route := some { path := "/main/lamp" } } }]

/-- A page is not found by a part of its name. -/
theorem lamp_unfound :
    "app.ΦΩΣΑΚΙ" = "app." ++ "ΦΩΣ" ++ "ΑΚΙ" ∧ lamps.search "ΦΩΣ" = [] ∧
      lamps.search "ΦΩΣΑ" = [⟨"app.ΦΩΣΑΚΙ", [.route]⟩] ∧
      ¬∀ (table : SymbolTable) (query : String), ∀ decl ∈ table.declarations,
        decl.isMarked = true → Text.contains decl.qualifiedName query = true →
          (table.found query).count decl.qualifiedName = 1 := by
  have unfound : lamps.search "ΦΩΣ" = [] := by decide +kernel
  refine ⟨by decide, unfound, by decide +kernel, fun complete => ?_⟩
  have once := complete lamps "ΦΩΣ"
    { qualifiedName := "app.ΦΩΣΑΚΙ", marks := { route := some { path := "/main/lamp" } } }
    (by decide +kernel) rfl (by decide +kernel)
  rw [found, unfound] at once
  cases once

end SymbolTable

end RouteAtlas
