import RouteAtlas.Proofs.Injection.Agreement
import RouteAtlas.Proofs.Unit.Providers

/-! # Providers are found by their contracts

Under whichever names a provider is entered, a field of that type is looked up and not read, and
what it is looked up in has the record of the provider.
-/

namespace RouteAtlas

namespace SymbolTable

variable {table : SymbolTable} {property : Property}

/-- A field that holds a capability is looked up, on a class of any kind. -/
theorem compileField_of_isProvider {owner : Declaration}
    (provider : table.isProvider property.type = true) (marked : property.isMarked = true)
    (accessible : property.visibility ≠ .privateScope) (kind : RouteKind) :
    ∃ mark, property.directive = some mark ∧
      table.compileField owner kind property = .ok (lookupStatements owner property mark) := by
  rw [← property.isSome_directive, Option.isSome_iff_exists] at marked
  obtain ⟨mark, directed⟩ := marked
  refine ⟨mark, directed, compileField_eq_ok_iff.mpr ⟨accessible, ?_⟩⟩
  simp only [directed, provider, if_true]

theorem fieldDirective_of_isProvider
    (provider : table.isProvider property.type = true) : table.fieldDirective property = none := by
  rw [fieldDirective, provider]
  cases property.directive <;> rfl

end SymbolTable

/-- What is entered of a provider, and how fields of the types that it is entered under are filled
    in. -/
structure Registered (table : SymbolTable) (decl : Declaration) (record : RouteRecord) : Prop where
  entered : record.providerKeys ≠ []
  nodup : record.providerKeys.Nodup
  mem_iff : ∀ key, key ∈ record.providerKeys ↔
    (key = decl.qualifiedName ∧ Contract.provider ∈ decl.supertypes.map TypeRef.name) ∨
      (key ∈ decl.supertypes.map TypeRef.name ∧ key ≠ Contract.provider ∧
        table.Reaches key Contract.provider)
  /-- A field is looked up on every class, and none of its statements reads a parameter. -/
  lookedUp : ∀ key ∈ record.providerKeys, ∀ owner kind property, property.type.name = key →
    property.isMarked = true → property.visibility ≠ .privateScope →
    ∃ way checks, table.compileField owner kind property =
        .ok (.serviceLookup property.name property.type way :: checks) ∧
      (∀ check ∈ checks, check = .nullCheck property.name owner.simpleName .throw) ∧
      table.fieldDirective property = none
  /-- Once a table has accepted the record, it is found there until the class has another one. -/
  found : ∀ key ∈ record.providerKeys, ∀ {history routes}, RouteTable.Reached history routes →
    (routes.insert record).accepted = true → ∀ later,
    RouteTable.lastAccepted later record.target = none → ∀ module, ∃ filed entries,
      record.validate = .ok filed ∧
        (((routes.insert record).table.insertAll later).table.providerUnit module).body =
          .providers entries ∧
        (key, filed) ∈ entries

/-- The record that a table has accepted stays in it as long as no other one of its class comes. -/
theorem RouteTable.Reached.exists_filed {history : List RouteRecord} {routes : RouteTable}
    (reached : Reached history routes) {record : RouteRecord}
    (accepted : (routes.insert record).accepted = true) {later : List RouteRecord}
    (others : lastAccepted later record.target = none) :
    ∃ filed, record.validate = .ok filed ∧
      filed ∈ ((routes.insert record).table.insertAll later).table.records := by
  obtain ⟨filed, passed⟩ := exists_validate_of_accepted accepted
  have target := RouteRecord.target_of_validate passed
  have inserted : filed ∈ (routes.insert record).table.records := by
    rw [table_insert, passed]
    exact (mem_records_filed reached.wellFormed).mpr (.inl rfl)
  refine ⟨filed, passed, ?_⟩
  rw [mem_records_insertAll (wellFormed_insert reached.wellFormed record), target]
  exact .inr ⟨others, inserted⟩

/-- Providers are entered under every contract that a field can ask for. -/
theorem registered_of_extracted {table : SymbolTable} {decl : Declaration} {record : RouteRecord}
    (member : decl ∈ table.declarations) (made : table.extractRoute decl = .ok record)
    (provider : record.kind = .provider) : Registered table decl record := by
  obtain ⟨kind, keys⟩ := SymbolTable.provider_of_extractRoute made provider
  constructor
  case entered => exact keys ▸ SymbolTable.providerKeys_ne_nil member kind
  case nodup => exact keys ▸ nodup_firstOccurrences _
  case mem_iff => exact fun key => keys ▸ SymbolTable.mem_providerKeys
  case lookedUp =>
    rintro key listed owner kind property rfl marked accessible
    rw [keys] at listed
    have provider : table.isProvider property.type = true :=
      SymbolTable.isProvider_iff.mpr (SymbolTable.reaches_of_mem_providerKeys member listed)
    obtain ⟨mark, -, compiled⟩ :=
      SymbolTable.compileField_of_isProvider provider marked accessible kind
    refine ⟨_, _, compiled, fun check listed => ?_,
      SymbolTable.fieldDirective_of_isProvider provider⟩
    split at listed
    · exact List.mem_singleton.mp listed
    · cases listed
  case found =>
    intro key listed history routes reached accepted later others module
    obtain ⟨filed, passed, held⟩ := reached.exists_filed accepted others
    obtain ⟨-, group, -, -, rfl⟩ := RouteRecord.validate_eq_ok_iff.mp passed
    obtain ⟨entries, body⟩ : ∃ entries,
        (((routes.insert record).table.insertAll later).table.providerUnit module).body =
          .providers entries := ⟨_, rfl⟩
    refine ⟨_, entries, passed, body, (RouteTable.mem_providerUnit body).mpr ⟨held, provider, ?_⟩⟩
    exact List.mem_cons_of_mem _ listed

section Concierge

/-- A provider that implements the bare contract besides a derived one. -/
private def concierge : Declaration :=
  { qualifiedName := "app.Concierge"
    supertypes := [.named "app.Guide", .named Contract.provider, .named "java.lang.Object"]
    marks := { route := some { path := "/hotel/concierge" } } }

private def hotel : SymbolTable :=
  .ofList [{ qualifiedName := "app.Guide", supertypes := [.named Contract.provider] }, concierge]

private def conciergeRecord : RouteRecord :=
  { path := "/hotel/concierge", kind := .provider, target := .named "app.Concierge"
    providerKeys := ["app.Guide", "app.Concierge"] }

private theorem extractRoute_concierge : hotel.extractRoute concierge = .ok conciergeRecord := by
  have guide : hotel.supertypeNames "app.Guide" = [Contract.provider] := by decide +kernel
  have bare : hotel.supertypeNames Contract.provider = [] := by decide +kernel
  have object : hotel.supertypeNames "java.lang.Object" = [] := by decide +kernel
  have walked : hotel.ancestors concierge =
      ["app.Guide", Contract.provider, "java.lang.Object"] := by
    change hotel.walk ["app.Concierge"] ["app.Guide", Contract.provider, "java.lang.Object"] = _
    rw [Contract.provider] at guide bare ⊢
    simp [SymbolTable.walk_fresh, SymbolTable.walk_seen, guide, bare, object]
  have kind : hotel.routeKind concierge = .provider := by
    rw [SymbolTable.routeKind, SymbolTable.firstMatch, walked]
    decide
  have known : hotel.isProvider (.named "app.Guide") = true :=
    SymbolTable.isProvider_iff.mpr (.single (guide ▸ List.mem_singleton.mpr rfl))
  have other : hotel.isProvider (.named "java.lang.Object") = false := by
    rw [Bool.eq_false_iff, ne_eq, SymbolTable.isProvider_iff]
    intro reached
    rcases Relation.ReflTransGen.cases_head reached with same | ⟨name, listed, -⟩
    · exact absurd same (by decide)
    · rw [TypeRef.named, object] at listed
      cases listed
  have keys : hotel.providerKeys concierge = ["app.Guide", "app.Concierge"] := by
    simp [SymbolTable.providerKeys, concierge, providerKey?, known, other, TypeRef.named,
      Contract.provider, firstOccurrences] at known other ⊢
  rw [SymbolTable.extractRoute, kind, keys]
  rfl

/-- The concierge is found as one and as a guide. -/
theorem registered_of_concierge :
    concierge ∈ hotel.declarations ∧ hotel.extractRoute concierge = .ok conciergeRecord ∧
      conciergeRecord.kind = .provider ∧ Registered hotel concierge conciergeRecord ∧
      (RouteTable.empty.insert conciergeRecord).accepted = true := by
  have member : concierge ∈ hotel.declarations := by decide +kernel
  exact ⟨member, extractRoute_concierge, rfl,
    registered_of_extracted member extractRoute_concierge rfl, by decide +kernel⟩

end Concierge

end RouteAtlas
