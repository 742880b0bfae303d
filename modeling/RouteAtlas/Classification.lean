import RouteAtlas.Contract
import RouteAtlas.Route.Kind
import RouteAtlas.SymbolTable.Ancestors
import RouteAtlas.ValueKind

/-! # Classification

What a declaration is by the contracts among its ancestors: which kind of route it can be, how
values of a type are read, and under which names a capability is looked up.
-/

namespace RouteAtlas

/-- The contracts that make a class a route, with the kind of route they make it. -/
def routeContracts : List (String × RouteKind) :=
  [(Contract.activity, .screen), (Contract.appCompatActivity, .screen),
    (Contract.fragment, .subScreen), (Contract.fragmentX, .subScreen),
    (Contract.fragmentV4, .subScreen), (Contract.service, .service),
    (Contract.provider, .provider)]

/-- The kind of route that goes with a place among the route contracts. -/
def RouteKind.ofPlace (place : Option Nat) : RouteKind :=
  ((place.bind fun index => routeContracts[index]?).map Prod.snd).getD .unknown

/-- The kind of values whose type is not known by name. -/
def ValueKind.ofContracts (parcelable serializable : Bool) : ValueKind :=
  if parcelable then .parcelable else if serializable then .serializable else .object

/-- The first of each name, in order. -/
def firstOccurrences : List String → List String
  | [] => []
  | name :: rest => name :: (firstOccurrences rest).filter (· != name)

@[simp] theorem mem_firstOccurrences {name : String} {names : List String} :
    name ∈ firstOccurrences names ↔ name ∈ names := by
  induction names with
  | nil => simp [firstOccurrences]
  | cons first rest ih =>
    by_cases same : name = first <;> simp [firstOccurrences, same, ih]

theorem nodup_firstOccurrences (names : List String) : (firstOccurrences names).Nodup := by
  induction names with
  | nil => simp [firstOccurrences]
  | cons first rest ih => exact List.nodup_cons.mpr ⟨by simp, ih.filter _⟩

/-- The name under which a supertype makes a provider known, where `isProvider` says whether it is
    a capability: the provider's own name if the supertype is the bare contract of providers. -/
def providerKey? (decl : Declaration) (supertype : TypeRef) (isProvider : Bool) : Option String :=
  if supertype.name = Contract.provider then some decl.qualifiedName
  else if isProvider then some supertype.name
  else none

namespace SymbolTable

/-- Place among the candidates of the nearest ancestor that is one of them. -/
def firstMatch (table : SymbolTable) (decl : Declaration) (candidates : List String) : Option Nat :=
  RouteAtlas.firstMatch (table.ancestors decl) candidates

/-- Whether a contract is among the ancestors of a declaration. -/
def implements (table : SymbolTable) (decl : Declaration) (contract : String) : Bool :=
  (table.firstMatch decl [contract]).isSome

/-- Place among the candidates of the nearest name that a type answers to. -/
def typeFirstMatch (table : SymbolTable) (type : TypeRef) (candidates : List String) : Option Nat :=
  RouteAtlas.firstMatch (table.lineage type) candidates

/-- Whether a type answers to the name of a contract. -/
def typeImplements (table : SymbolTable) (type : TypeRef) (contract : String) : Bool :=
  (table.typeFirstMatch type [contract]).isSome

/-- The kind of route that a declaration can be: that of its nearest route contract. -/
def routeKind (table : SymbolTable) (decl : Declaration) : RouteKind :=
  .ofPlace (table.firstMatch decl (routeContracts.map Prod.fst))

/-- How values of a type are read. -/
def valueKind (table : SymbolTable) (type : TypeRef) : ValueKind :=
  match ValueKind.ofTypeName? type.name with
  | some kind => kind
  | none =>
    .ofContracts (table.typeImplements type Contract.parcelable)
      (table.typeImplements type Contract.serializable)

/-- Whether a type is a capability that is looked up instead of read. -/
def isProvider (table : SymbolTable) (type : TypeRef) : Bool :=
  table.typeImplements type Contract.provider

/-- The names under which a provider is looked up, one for each capability among its direct
    supertypes. -/
def providerKeys (table : SymbolTable) (decl : Declaration) : List String :=
  firstOccurrences <| decl.supertypes.filterMap fun supertype =>
    providerKey? decl supertype (table.isProvider supertype)

end SymbolTable

end RouteAtlas
