import RouteAtlas.Proofs.Classification.Nearest
import RouteAtlas.Route.Extract

/-! # Classes as routes

An annotated class becomes a route if one of the known contracts is among its ancestors. The names
under which a provider is entered are those by which the contract of providers is reached from it.
-/

namespace RouteAtlas

theorem RouteKind.exists_of_ofPlace {place : Option Nat} {kind : RouteKind}
    (known : kind ≠ .unknown) (made : RouteKind.ofPlace place = kind) :
    ∃ index contract, place = some index ∧ routeContracts[index]? = some (contract, kind) := by
  cases place with
  | none => exact absurd made.symm known
  | some index =>
      cases listed : routeContracts[index]? with
      | none => simp [ofPlace, listed, known.symm] at made
      | some entry =>
          obtain ⟨contract, other⟩ := entry
          simp only [ofPlace, Option.bind_some, listed, Option.map_some, Option.getD_some] at made
          exact ⟨index, contract, rfl, made ▸ listed⟩

namespace SymbolTable

variable {table : SymbolTable} {decl : Declaration} {record : RouteRecord} {key : String}

theorem extractRoute_eq_ok_iff :
    table.extractRoute decl = .ok record ↔
      ∃ mark, decl.marks.route = some mark ∧ table.routeKind decl ≠ .unknown ∧
        record =
          { path := mark.path
            kind := table.routeKind decl
            target := decl.asType
            group := given? mark.group
            extra := mark.extras
            priority := mark.priority
            description := given? mark.name
            fields :=
              if (table.routeKind decl).takesParameters then table.fieldDirectives decl else .empty
            providerKeys :=
              if table.routeKind decl = .provider then table.providerKeys decl else [] } := by
  unfold extractRoute
  cases decl.marks.route with
  | none => simp
  | some mark =>
      simp only [Option.some.injEq, exists_eq_left']
      split
      case isTrue unknown => exact iff_of_false nofun fun made => made.1 unknown
      case isFalse known => rw [Except.ok.injEq, eq_comm, and_iff_right known]

theorem mark_of_extractRoute (extracted : table.extractRoute decl = .ok record) :
    ∃ mark, decl.marks.route = some mark ∧ record.path = mark.path ∧
      record.target = decl.asType := by
  obtain ⟨mark, marked, -, rfl⟩ := extractRoute_eq_ok_iff.mp extracted
  exact ⟨mark, marked, rfl, rfl⟩

theorem isProvider_iff {type : TypeRef} :
    table.isProvider type = true ↔ table.Reaches type.name Contract.provider :=
  typeImplements_iff_reaches

/-- A class of a known kind has a contract of that kind among its ancestors. -/
theorem exists_contract_of_routeKind {kind : RouteKind} (known : kind ≠ .unknown)
    (made : table.routeKind decl = kind) :
    ∃ contract ∈ table.ancestors decl, (contract, kind) ∈ routeContracts := by
  obtain ⟨index, contract, found, listed⟩ := RouteKind.exists_of_ofPlace known made
  obtain ⟨before, name, after, split, -, here, -⟩ := exists_of_firstMatch found
  rw [List.getElem?_map, listed, Option.map_some, Option.some.injEq] at here
  subst here
  exact ⟨contract, by rw [split]; simp, List.mem_of_getElem? listed⟩

theorem provider_mem_ancestors (kind : table.routeKind decl = .provider) :
    Contract.provider ∈ table.ancestors decl := by
  obtain ⟨contract, ancestor, listed⟩ := exists_contract_of_routeKind (by decide) kind
  have bare : contract = Contract.provider := by simpa [routeContracts] using listed
  exact bare ▸ ancestor

/-- The way to the contract leads over one of the direct supertypes, which may be the contract. -/
theorem exists_supertype_of_provider (member : decl ∈ table.declarations)
    (kind : table.routeKind decl = .provider) :
    ∃ name ∈ decl.supertypes.map TypeRef.name, table.Reaches name Contract.provider := by
  obtain ⟨other, reached⟩ :=
    ((nearestFirst member).mem_iff Contract.provider).mp (provider_mem_ancestors kind)
  rcases Relation.ReflTransGen.cases_head reached with same | ⟨name, listed, further⟩
  · exact absurd same.symm other
  · rw [supertypeNames_of_mem member] at listed
    exact ⟨name, listed, further⟩

/-- A provider is entered under its own name if it implements the bare contract itself, and under
    those of its supertypes from which the contract is reached. -/
theorem mem_providerKeys :
    key ∈ table.providerKeys decl ↔
      (key = decl.qualifiedName ∧ Contract.provider ∈ decl.supertypes.map TypeRef.name) ∨
        (key ∈ decl.supertypes.map TypeRef.name ∧ key ≠ Contract.provider ∧
          table.Reaches key Contract.provider) := by
  simp only [providerKeys, mem_firstOccurrences, List.mem_filterMap, List.mem_map]
  constructor
  · rintro ⟨supertype, listed, entered⟩
    unfold providerKey? at entered
    split at entered
    case isTrue bare => exact .inl ⟨(Option.some.inj entered).symm, supertype, listed, bare⟩
    case isFalse derived =>
      split at entered
      case isTrue reached =>
        obtain rfl := Option.some.inj entered
        exact .inr ⟨⟨supertype, listed, rfl⟩, derived, isProvider_iff.mp reached⟩
      case isFalse => cases entered
  · rintro (⟨rfl, supertype, listed, bare⟩ | ⟨⟨supertype, listed, rfl⟩, derived, reached⟩)
    · exact ⟨supertype, listed, by rw [providerKey?, if_pos bare]⟩
    · refine ⟨supertype, listed, ?_⟩
      rw [providerKey?, if_neg derived, if_pos (isProvider_iff.mpr reached)]

theorem providerKeys_ne_nil (member : decl ∈ table.declarations)
    (kind : table.routeKind decl = .provider) : table.providerKeys decl ≠ [] := by
  obtain ⟨name, listed, reached⟩ := exists_supertype_of_provider member kind
  by_cases bare : name = Contract.provider
  · exact List.ne_nil_of_mem (mem_providerKeys.mpr (.inl ⟨rfl, bare ▸ listed⟩))
  · exact List.ne_nil_of_mem (mem_providerKeys.mpr (.inr ⟨listed, bare, reached⟩))

/-- Whatever a provider is entered under is the name of a capability. -/
theorem reaches_of_mem_providerKeys (member : decl ∈ table.declarations)
    (entered : key ∈ table.providerKeys decl) : table.Reaches key Contract.provider := by
  rcases mem_providerKeys.mp entered with ⟨rfl, bare⟩ | ⟨-, -, reached⟩
  · rw [← supertypeNames_of_mem member] at bare
    exact .single bare
  · exact reached

theorem provider_of_extractRoute (made : table.extractRoute decl = .ok record)
    (kind : record.kind = .provider) :
    table.routeKind decl = .provider ∧ record.providerKeys = table.providerKeys decl := by
  obtain ⟨mark, -, -, rfl⟩ := extractRoute_eq_ok_iff.mp made
  exact ⟨kind, if_pos kind⟩

end SymbolTable

end RouteAtlas
