import RouteAtlas.Proofs.Round.Found
import RouteAtlas.Proofs.Route.Clashes
import RouteAtlas.Unit.Basic

/-! # Keys that providers share

Providers are looked up by path and by contract. Of those that share a key only the last one is
found; this is reported if they share a path within a group, and not otherwise: neither a path in
two groups is compared nor the names of contracts.
-/

namespace RouteAtlas

namespace RouteTable

section Providers

variable {records : List RouteRecord} {module key : String} {table : RouteTable}

theorem mem_providerUnit {entries : List (String × RouteRecord)} {record : RouteRecord}
    (body : (table.providerUnit module).body = .providers entries) :
    (key, record) ∈ entries ↔
      record ∈ table.records ∧ record.kind = .provider ∧ key ∈ lookupKeys record := by
  cases body
  simp only [List.mem_flatMap, providers, List.mem_mergeSort, List.mem_filter, List.mem_map,
    decide_eq_true_eq]
  constructor
  · intro ⟨held, ⟨member, kind⟩, _, listed, same⟩
    cases same
    exact ⟨member, kind, listed⟩
  · exact fun ⟨member, kind, listed⟩ => ⟨record, ⟨member, kind⟩, key, listed, rfl⟩

/-- Two classes are entered under one key, so the later entry replaces the earlier one. -/
structure SharesKey (module : String) (table : RouteTable) (key : String) (r s : RouteRecord) :
    Prop where
  others : r.target ≠ s.target
  entered : ∃ entries, (table.providerUnit module).body = .providers entries ∧
    (key, r) ∈ entries ∧ (key, s) ∈ entries

/-- No warning or error names the classes of both. -/
def NotNamed (log : Diagnostics) (r s : RouteRecord) : Prop :=
  ∀ entry ∈ log, entry.severity ≠ .info →
    ¬(Text.contains entry.message r.target.name ∧ Text.contains entry.message s.target.name)

instance (log : Diagnostics) (r s : RouteRecord) : Decidable (NotNamed log r s) :=
  inferInstanceAs (Decidable (∀ entry ∈ log, _ → ¬_))

/-- The records are routes of classes of one table. -/
def Extracted (symbols : SymbolTable) (records : List RouteRecord) : Prop :=
  ∀ record ∈ records, ∃ decl ∈ symbols.declarations, symbols.extractRoute decl = .ok record

theorem Extracted.oneEach {symbols : SymbolTable} (extracted : Extracted symbols records) :
    OneEach records := by
  intro record member other otherIn same
  obtain ⟨decl, known, made⟩ := extracted record member
  obtain ⟨twin, twinKnown, twinMade⟩ := extracted other otherIn
  obtain ⟨-, -, -, own⟩ := SymbolTable.mark_of_extractRoute made
  obtain ⟨-, -, -, twinOwn⟩ := SymbolTable.mark_of_extractRoute twinMade
  rw [own, twinOwn] at same
  injection same with names
  rw [List.inj_on_of_nodup_map symbols.distinct known twinKnown names, twinMade] at made
  cases made
  rfl

/-- A class comes first at its path, or was reported with the class that does. -/
def Announced (batch : Batch) (record : RouteRecord) : Prop :=
  ∃ first rest, batch.table.slot record.groupName record.path = first :: rest ∧
    (record = first ∨ Reports batch.log record.groupName record.path first.target record.target)

theorem announced_of_oneEach (oneEach : OneEach records) {record : RouteRecord}
    (member : record ∈ (empty.insertAll records).table.records) :
    Announced (empty.insertAll records) record := by
  have filed := (wellFormed_insertAll wellFormed_empty records).filed_records member
  cases slot : (empty.insertAll records).table.slot record.groupName record.path with
  | nil => simp [slot] at filed
  | cons first rest =>
      refine ⟨first, rest, slot, ?_⟩
      rw [slot, List.mem_cons] at filed
      exact filed.imp_right fun later => reports_of_mem (warned_of_oneEach oneEach slot later)

/-- What insertions say of classes that share a key. -/
structure KeyClashes (module : String) (batch : Batch) (records : List RouteRecord) : Prop where
  /-- Two classes with one path in one group are reported together if one of them comes first there,
      and else with the class that does. -/
  reported : ∀ {key r s}, SharesKey module batch.table key r s → r.path = s.path →
    r.groupName = s.groupName →
    ∃ first rest, batch.table.slot r.groupName r.path = first :: rest ∧
      (r = first ∧ Reports batch.log r.groupName r.path r.target s.target ∨
        s = first ∧ Reports batch.log r.groupName r.path s.target r.target ∨
        Reports batch.log r.groupName r.path first.target r.target ∧
          Reports batch.log r.groupName r.path first.target s.target)
  only : ∀ entry ∈ batch.log, entry.severity ≠ .info → Warned records entry

/-- Providers that share their path in a group are not replaced silently. -/
theorem keyClashes_of_extracted {symbols : SymbolTable} (extracted : Extracted symbols records) :
    KeyClashes module (empty.insertAll records) records where
  reported := by
    intro key r s shares path group
    obtain ⟨entries, body, rIn, sIn⟩ := shares.entered
    have rHeld := ((mem_providerUnit body).mp rIn).1
    have sHeld := ((mem_providerUnit body).mp sIn).1
    obtain ⟨first, rest, slot, rSaid⟩ := announced_of_oneEach extracted.oneEach rHeld
    obtain ⟨again, others, same, sSaid⟩ := announced_of_oneEach extracted.oneEach sHeld
    rw [← path, ← group] at same sSaid
    obtain ⟨rfl, rfl⟩ := List.cons.inj (slot.symm.trans same)
    refine ⟨first, rest, slot, ?_⟩
    rcases rSaid with rfl | rSaid
    · rcases sSaid with rfl | sSaid
      · exact absurd rfl shares.others
      · exact .inl ⟨rfl, sSaid⟩
    · rcases sSaid with rfl | sSaid
      · exact .inr (.inl ⟨rfl, rSaid⟩)
      · exact .inr (.inr ⟨rSaid, sSaid⟩)
  only := fun _ => warned_of_mem_log

end Providers

section Shop

private def service (name supertype path group : String) : Declaration :=
  { qualifiedName := name
    supertypes := [.named supertype]
    marks := { route := some { path, group } } }

private def serviceRecord (name key path : String) (group : Option String) : RouteRecord :=
  { path, kind := .provider, target := .named name, group, providerKeys := [key] }

/-- Two providers of a contract, two of one path in different groups, and three of one path. -/
private def shop : SymbolTable where
  declarations := [{ qualifiedName := "app.Greeter", supertypes := [.named Contract.provider] },
    service "app.Hello" "app.Greeter" "/hello/first" "",
    service "app.Welcome" "app.Greeter" "/hello/second" "",
    service "app.Cart" Contract.provider "/shop/cart" "",
    service "app.Basket" Contract.provider "/shop/cart" "sale",
    service "app.Mail" Contract.provider "/main/info" "",
    service "app.News" Contract.provider "/main/info" "",
    service "app.Help" Contract.provider "/main/info" ""]
  distinct := by simp [service]

private def shopRecords : List RouteRecord :=
  [serviceRecord "app.Hello" "app.Greeter" "/hello/first" none,
    serviceRecord "app.Welcome" "app.Greeter" "/hello/second" none,
    serviceRecord "app.Cart" "app.Cart" "/shop/cart" none,
    serviceRecord "app.Basket" "app.Basket" "/shop/cart" (some "sale"),
    serviceRecord "app.Mail" "app.Mail" "/main/info" none,
    serviceRecord "app.News" "app.News" "/main/info" none,
    serviceRecord "app.Help" "app.Help" "/main/info" none]

private theorem extractRoute_own {name : String} (other : Contract.provider ≠ name)
    (path group : String) :
    shop.extractRoute (service name Contract.provider path group) =
      .ok (serviceRecord name name path (given? group)) := by
  have kind : shop.routeKind (service name Contract.provider path group) = .provider := by
    rw [SymbolTable.routeKind, SymbolTable.firstMatch_of_unknown rfl other rfl]
    decide
  have keys : shop.providerKeys (service name Contract.provider path group) = [name] := by
    simp [SymbolTable.providerKeys, service, providerKey?, firstOccurrences, TypeRef.named]
  rw [SymbolTable.extractRoute, kind, keys]
  rfl

private theorem supertypeNames_greeter :
    shop.supertypeNames "app.Greeter" = [Contract.provider] := by
  decide +kernel

private theorem supertypeNames_provider : shop.supertypeNames Contract.provider = [] := by
  decide +kernel

private theorem walk_greeter {seen : List String} (fresh : "app.Greeter" ∉ seen)
    (other : Contract.provider ∉ seen) :
    shop.walk seen ["app.Greeter"] = ["app.Greeter", Contract.provider] := by
  have differ : Contract.provider ≠ "app.Greeter" := by decide
  have unseen : Contract.provider ∉ "app.Greeter" :: seen := by simp [differ, other]
  rw [SymbolTable.walk_fresh fresh, supertypeNames_greeter, List.nil_append,
    SymbolTable.walk_fresh unseen, supertypeNames_provider, List.nil_append, SymbolTable.walk_nil]

private theorem extractRoute_greeter {name : String} (other : name ≠ "app.Greeter")
    (apart : name ≠ Contract.provider) (path group : String) :
    shop.extractRoute (service name "app.Greeter" path group) =
      .ok (serviceRecord name "app.Greeter" path (given? group)) := by
  have line : shop.ancestors (service name "app.Greeter" path group) =
      ["app.Greeter", Contract.provider] :=
    walk_greeter (by simpa [service] using other.symm) (by simpa [service] using apart.symm)
  have kind : shop.routeKind (service name "app.Greeter" path group) = .provider := by
    rw [SymbolTable.routeKind, SymbolTable.firstMatch, line]
    decide
  have isProvider : shop.isProvider (.named "app.Greeter") = true :=
    SymbolTable.isProvider_iff.mpr (.single (supertypeNames_greeter ▸ List.mem_singleton.mpr rfl))
  have differ : "app.Greeter" ≠ Contract.provider := by decide
  have keys : shop.providerKeys (service name "app.Greeter" path group) = ["app.Greeter"] := by
    have single : (service name "app.Greeter" path group).supertypes =
        [.named "app.Greeter"] := rfl
    rw [SymbolTable.providerKeys, single, List.filterMap_cons, isProvider]
    simp [providerKey?, differ, firstOccurrences, TypeRef.named]
  rw [SymbolTable.extractRoute, kind, keys]
  rfl

private theorem extracted_shop : Extracted shop shopRecords := by
  intro record member
  simp only [shopRecords, List.mem_cons, List.not_mem_nil, or_false] at member
  rcases member with rfl | rfl | rfl | rfl | rfl | rfl | rfl
  · exact ⟨_, by simp [shop], extractRoute_greeter (by decide) (by decide) "/hello/first" ""⟩
  · exact ⟨_, by simp [shop], extractRoute_greeter (by decide) (by decide) "/hello/second" ""⟩
  · exact ⟨_, by simp [shop], extractRoute_own (by decide) "/shop/cart" ""⟩
  · exact ⟨_, by simp [shop], extractRoute_own (by decide) "/shop/cart" "sale"⟩
  · exact ⟨_, by simp [shop], extractRoute_own (by decide) "/main/info" ""⟩
  · exact ⟨_, by simp [shop], extractRoute_own (by decide) "/main/info" ""⟩
  · exact ⟨_, by simp [shop], extractRoute_own (by decide) "/main/info" ""⟩

/-- The records of the shop in the form in which they are filed. -/
private def shopRoutes : List RouteRecord :=
  [serviceRecord "app.Hello" "app.Greeter" "/hello/first" (some "hello"),
    serviceRecord "app.Welcome" "app.Greeter" "/hello/second" (some "hello"),
    serviceRecord "app.Mail" "app.Mail" "/main/info" (some "main"),
    serviceRecord "app.News" "app.News" "/main/info" (some "main"),
    serviceRecord "app.Help" "app.Help" "/main/info" (some "main"),
    serviceRecord "app.Basket" "app.Basket" "/shop/cart" (some "sale"),
    serviceRecord "app.Cart" "app.Cart" "/shop/cart" (some "shop")]

private theorem records_shop : (empty.insertAll shopRecords).table.records = shopRoutes := by
  decide +kernel

private theorem entered_shop {key : String} {r s : RouteRecord}
    (members : ∀ record ∈ [r, s],
      record ∈ shopRoutes ∧ record.kind = .provider ∧ key ∈ lookupKeys record)
    (others : r.target ≠ s.target) :
    SharesKey "app" (empty.insertAll shopRecords).table key r s where
  others := others
  entered := by
    obtain ⟨entries, body⟩ : ∃ entries,
        ((empty.insertAll shopRecords).table.providerUnit "app").body = .providers entries :=
      ⟨_, rfl⟩
    rw [← records_shop] at members
    exact ⟨entries, body, (mem_providerUnit body).mpr (members r (by simp)),
      (mem_providerUnit body).mpr (members s (by simp))⟩

private def shopWarnings : Diagnostics :=
  [clashWarning "main" "/main/info" (.named "app.Mail") (.named "app.News"),
    clashWarning "main" "/main/info" (.named "app.Mail") (.named "app.Help")]

private theorem notNamed_shop {r s : RouteRecord} (notNamed : NotNamed shopWarnings r s) :
    NotNamed (empty.insertAll shopRecords).log r s := by
  have warnings : (empty.insertAll shopRecords).log.filter
      (fun entry => decide (entry.severity ≠ .info)) = shopWarnings := by decide +kernel
  rw [← warnings] at notNamed
  exact fun entry said loud => notNamed entry (List.mem_filter.mpr ⟨said, by simpa using loud⟩) loud

/-- Mail and News share their path in one group, which is reported. -/
theorem keyClashes_of_shop : Extracted shop shopRecords ∧
    KeyClashes "app" (empty.insertAll shopRecords) shopRecords ∧
      SharesKey "app" (empty.insertAll shopRecords).table "/main/info"
        (serviceRecord "app.Mail" "app.Mail" "/main/info" (some "main"))
        (serviceRecord "app.News" "app.News" "/main/info" (some "main")) := by
  refine ⟨extracted_shop, keyClashes_of_extracted extracted_shop, entered_shop ?_ (by decide)⟩
  decide +kernel

/-- Neither a contract in common is reported nor a path in common over two groups, and a class is
    only reported with the first one of its path. -/
theorem keyClashes_missed : Extracted shop shopRecords ∧
    (∃ r s, SharesKey "app" (empty.insertAll shopRecords).table "app.Greeter" r s ∧
      NotNamed (empty.insertAll shopRecords).log r s) ∧
    (∃ r s, SharesKey "app" (empty.insertAll shopRecords).table "/shop/cart" r s ∧
      NotNamed (empty.insertAll shopRecords).log r s) ∧
    ∃ r s, SharesKey "app" (empty.insertAll shopRecords).table "/main/info" r s ∧
      NotNamed (empty.insertAll shopRecords).log r s := by
  refine ⟨extracted_shop, ?greeters, ?carts, ?infos⟩
  case greeters =>
    refine ⟨serviceRecord "app.Hello" "app.Greeter" "/hello/first" (some "hello"),
      serviceRecord "app.Welcome" "app.Greeter" "/hello/second" (some "hello"),
      entered_shop ?_ (by decide), notNamed_shop ?_⟩ <;> decide +kernel
  case carts =>
    refine ⟨serviceRecord "app.Cart" "app.Cart" "/shop/cart" (some "shop"),
      serviceRecord "app.Basket" "app.Basket" "/shop/cart" (some "sale"),
      entered_shop ?_ (by decide), notNamed_shop ?_⟩ <;> decide +kernel
  case infos =>
    refine ⟨serviceRecord "app.News" "app.News" "/main/info" (some "main"),
      serviceRecord "app.Help" "app.Help" "/main/info" (some "main"),
      entered_shop ?_ (by decide), notNamed_shop ?_⟩ <;> decide +kernel

end Shop

end RouteTable

end RouteAtlas
