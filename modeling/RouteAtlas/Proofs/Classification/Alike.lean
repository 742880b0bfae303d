import Mathlib.Data.List.Basic
import RouteAtlas.Injection.Dispatch
import RouteAtlas.Proofs.Classification.Reach
import RouteAtlas.Round.Hooks
import RouteAtlas.Round.Injectors
import RouteAtlas.Route.Extract

/-! # Classes that two tables classify alike

What is made of a class depends on a few answers of its table. They are the same in every table that
knows the supertypes of all classes over which a contract is reached.
-/

namespace RouteAtlas

/-- The names from which the classification of a class starts: those of its supertypes and of the
    types of its injected fields. -/
def Declaration.mentions (decl : Declaration) : List String :=
  decl.supertypes.map TypeRef.name ++ decl.injected.map fun property => property.type.name

namespace SymbolTable

/-- Two tables give the answers about a class that its route, its place among the interceptors and
    its injector are made of. -/
structure Alike (table other : SymbolTable) (decl : Declaration) : Prop where
  routeKind : table.routeKind decl = other.routeKind decl
  interceptor :
    table.implements decl Contract.interceptor = other.implements decl Contract.interceptor
  providerKeys : table.providerKeys decl = other.providerKeys decl
  isProvider : ∀ property ∈ decl.injected,
    table.isProvider property.type = other.isProvider property.type
  valueKind : ∀ property ∈ decl.injected,
    table.valueKind property.type = other.valueKind property.type

namespace Alike

variable {table other : SymbolTable} {decl : Declaration}

theorem symm (alike : Alike table other decl) : Alike other table decl where
  routeKind := alike.routeKind.symm
  interceptor := alike.interceptor.symm
  providerKeys := alike.providerKeys.symm
  isProvider := fun property injected => (alike.isProvider property injected).symm
  valueKind := fun property injected => (alike.valueKind property injected).symm

theorem fieldDirective (alike : Alike table other decl) {property : Property}
    (member : property ∈ decl.properties) :
    table.fieldDirective property = other.fieldDirective property := by
  unfold SymbolTable.fieldDirective
  cases found : property.directive with
  | none => rfl
  | some mark =>
      have injected : property ∈ decl.injected := by
        refine List.mem_filter.mpr ⟨member, ?_⟩
        rw [← property.isSome_directive, found, Option.isSome_some]
      rw [Option.bind_some, Option.bind_some, alike.isProvider property injected,
        alike.valueKind property injected]

theorem extractRoute (alike : Alike table other decl) :
    table.extractRoute decl = other.extractRoute decl := by
  have fields : table.fieldDirectives decl = other.fieldDirectives decl := by
    unfold fieldDirectives
    rw [List.filterMap_congr fun property member => alike.fieldDirective member]
  simp only [SymbolTable.extractRoute, alike.routeKind, alike.providerKeys, fields]

theorem hookOf (alike : Alike table other decl) : table.hookOf decl = other.hookOf decl := by
  simp only [SymbolTable.hookOf, alike.interceptor]

theorem injectorOf (alike : Alike table other decl) :
    table.injectorOf decl = other.injectorOf decl := by
  have blocks : ∀ properties ⊆ decl.injected,
      properties.mapM (table.compileField decl (table.routeKind decl)) =
        properties.mapM (other.compileField decl (other.routeKind decl)) := by
    intro properties injected
    induction properties with
    | nil => rfl
    | cons property rest ih =>
        have first := injected List.mem_cons_self
        have same : table.compileField decl (table.routeKind decl) property =
            other.compileField decl (other.routeKind decl) property := by
          simp only [compileField, alike.routeKind, alike.isProvider property first,
            alike.valueKind property first]
        rw [List.mapM_cons, List.mapM_cons, same,
          ih fun later member => injected (List.mem_cons_of_mem _ member)]
  simp only [SymbolTable.injectorOf, compileInjector, blocks _ (List.Subset.refl _)]

/-- Tables that find the same contracts answer alike. -/
theorem of_firstMatch
    (ancestors : ∀ candidates ⊆ contracts,
      table.firstMatch decl candidates = other.firstMatch decl candidates)
    (types : ∀ type : TypeRef, type.name ∈ decl.mentions → ∀ candidates ⊆ contracts,
      table.typeFirstMatch type candidates = other.typeFirstMatch type candidates) :
    Alike table other decl := by
  have injected : ∀ property ∈ decl.injected, property.type.name ∈ decl.mentions :=
    fun property member => List.mem_append_right _ (List.mem_map_of_mem member)
  constructor
  case routeKind =>
    rw [SymbolTable.routeKind, ancestors _ (List.subset_append_left _ _), SymbolTable.routeKind]
  case interceptor =>
    rw [implements, ancestors _ (by decide), implements]
  case providerKeys =>
    have keys : ∀ supertype ∈ decl.supertypes,
        providerKey? decl supertype (table.isProvider supertype) =
          providerKey? decl supertype (other.isProvider supertype) := by
      intro supertype member
      have mentioned : supertype.name ∈ decl.mentions :=
        List.mem_append_left _ (List.mem_map_of_mem member)
      rw [SymbolTable.isProvider, typeImplements, types supertype mentioned _ (by decide)]
      rfl
    rw [SymbolTable.providerKeys, List.filterMap_congr keys]
    rfl
  case isProvider =>
    intro property member
    rw [SymbolTable.isProvider, typeImplements, types _ (injected property member) _ (by decide)]
    rfl
  case valueKind =>
    intro property member
    simp only [SymbolTable.valueKind, typeImplements]
    rw [types _ (injected property member) _ (by decide),
      types _ (injected property member) _ (by decide)]

end Alike

/-- Tables in which all classes have the same supertypes classify alike. -/
theorem alike_of_supertypeNames {table other : SymbolTable}
    (same : ∀ name, table.supertypeNames name = other.supertypeNames name) (decl : Declaration) :
    Alike table other decl := by
  have walks : ∀ seen queue, table.walk seen queue = other.walk seen queue :=
    fun seen queue => walk_congr fun name _ => same name
  apply Alike.of_firstMatch
  · intro candidates _
    rw [SymbolTable.firstMatch, ancestors, walks]
    rfl
  · intro type _ candidates _
    rw [typeFirstMatch, lineage_eq, walks, same, ← lineage_eq]
    rfl

/-- A name leads to a contract: it is one, or has one among its supertypes. -/
def LeadsToContract (table : SymbolTable) (name : String) : Prop :=
  ∃ contract ∈ contracts, table.Reaches name contract

/-- The classification of a class draws on the supertypes of a name: the name is reached from what
    the class mentions, and one of its supertypes leads to a contract. -/
def DrawsOn (table : SymbolTable) (decl : Declaration) (name : String) : Prop :=
  (∃ start ∈ decl.mentions, table.Reaches start name) ∧
    ∃ next ∈ table.supertypeNames name, table.LeadsToContract next

/-- A table that has lost supertypes classifies a class as before if the classification does not
    draw on them. -/
theorem alike_of_drawsOn {table other : SymbolTable} {decl : Declaration}
    (known : ∀ name, other.supertypeNames name = table.supertypeNames name ∨
      (other.supertypeNames name = [] ∧ ¬table.DrawsOn decl name)) :
    Alike table other decl := by
  classical
  -- A match depends on the visited names that lead to a contract, and on their order. No other name
  -- leads to one of them, so the visits can be compared with the other names left out.
  let keep : String → Bool := fun name => decide (table.LeadsToContract name)
  have nothing : ∀ names : List String, (∀ name ∈ names, ¬table.LeadsToContract name) →
      names.filter keep = [] := by
    intro names none
    refine List.filter_eq_nil_iff.mpr fun name member => ?_
    simpa [keep] using none name member
  have closed : ∀ name, keep name = false → (table.supertypeNames name).filter keep = [] := by
    intro name dropped
    apply nothing
    rintro next member ⟨contract, listed, reached⟩
    have leads : table.LeadsToContract name := ⟨contract, listed, .head member reached⟩
    simp [keep, leads] at dropped
  have otherClosed : ∀ name, keep name = false →
      (other.supertypeNames name).filter keep = [] := by
    intro name dropped
    rcases known name with same | ⟨lost, _⟩
    · rw [same]
      exact closed name dropped
    · rw [lost, List.filter_nil]
  have same : ∀ name, (∃ start ∈ decl.mentions, table.Reaches start name) →
      (table.supertypeNames name).filter keep = (other.supertypeNames name).filter keep := by
    intro name reached
    rcases known name with same | ⟨lost, apart⟩
    · rw [same]
    · rw [lost, List.filter_nil]
      exact nothing _ fun next member leads => apart ⟨reached, next, member, leads⟩
  have kept : ∀ candidates ⊆ contracts, ∀ name ∈ candidates, keep name = true := by
    intro candidates listed name member
    have leads : table.LeadsToContract name := ⟨name, listed member, .refl⟩
    simp [keep, leads]
  apply Alike.of_firstMatch
  · intro candidates listed
    have walks : (table.ancestors decl).filter keep = (other.ancestors decl).filter keep := by
      refine filter_walk_congr closed otherClosed rfl fun name visited => ?_
      obtain ⟨start, queued, reached⟩ := exists_reaches_of_mem_walk visited
      exact same name ⟨start, List.mem_append_left _ queued, reached⟩
    rw [SymbolTable.firstMatch, ← firstMatch_filter (kept candidates listed), walks,
      firstMatch_filter (kept candidates listed)]
    rfl
  · intro type mentioned candidates listed
    have walks : (table.lineage type).filter keep = (other.lineage type).filter keep := by
      have queues := same type.name ⟨type.name, mentioned, .refl⟩
      rw [lineage_eq, lineage_eq, List.filter_cons, List.filter_cons,
        filter_walk_congr closed otherClosed queues]
      intro name visited
      obtain ⟨next, queued, reached⟩ := exists_reaches_of_mem_walk visited
      exact same name ⟨type.name, mentioned, .head queued reached⟩
    rw [typeFirstMatch, ← firstMatch_filter (kept candidates listed), walks,
      firstMatch_filter (kept candidates listed)]
    rfl

end SymbolTable

end RouteAtlas
