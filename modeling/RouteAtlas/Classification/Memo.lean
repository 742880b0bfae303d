import RouteAtlas.Classification

/-! # Remembered ancestors

Questions of classification share the ancestors that they need: those of a name are found once and
then taken from memory.
-/

namespace RouteAtlas

/-- The ancestors found so far, by name of the declaration. -/
abbrev Memo := List (String × List String)

namespace Memo

/-- The ancestors of a declaration, from memory if its name was met before. -/
def ancestors (table : SymbolTable) (decl : Declaration) : StateM Memo (List String) := do
  match (← get).lookup decl.qualifiedName with
  | some known => pure known
  | none =>
    let found := table.ancestors decl
    modify ((decl.qualifiedName, found) :: ·)
    pure found

/-- Place among the candidates of the nearest ancestor that is one of them. -/
def firstMatch (table : SymbolTable) (decl : Declaration) (candidates : List String) :
    StateM Memo (Option Nat) := do
  return RouteAtlas.firstMatch (← ancestors table decl) candidates

/-- Whether a contract is among the ancestors of a declaration. -/
def implements (table : SymbolTable) (decl : Declaration) (contract : String) :
    StateM Memo Bool := do
  return (← firstMatch table decl [contract]).isSome

/-- Place among the candidates of the nearest name that a type answers to. Ancestors are needed
    only for a type that is no candidate itself. -/
def typeFirstMatch (table : SymbolTable) (type : TypeRef) (candidates : List String) :
    StateM Memo (Option Nat) := do
  match candidates.findIdx? (· == type.name) with
  | some index => pure (some index)
  | none =>
    match table.resolve type.name with
    | some decl => firstMatch table decl candidates
    | none => pure none

/-- Whether a type answers to the name of a contract. -/
def typeImplements (table : SymbolTable) (type : TypeRef) (contract : String) :
    StateM Memo Bool := do
  return (← typeFirstMatch table type [contract]).isSome

def routeKind (table : SymbolTable) (decl : Declaration) : StateM Memo RouteKind := do
  return .ofPlace (← firstMatch table decl (routeContracts.map Prod.fst))

/-- How values of a type are read. The second contract is looked for only without the first. -/
def valueKind (table : SymbolTable) (type : TypeRef) : StateM Memo ValueKind := do
  match ValueKind.ofTypeName? type.name with
  | some kind => pure kind
  | none =>
    if ← typeImplements table type Contract.parcelable then pure .parcelable
    else return .ofContracts false (← typeImplements table type Contract.serializable)

/-- Whether a type is a capability that is looked up instead of read. -/
def isProvider (table : SymbolTable) (type : TypeRef) : StateM Memo Bool :=
  typeImplements table type Contract.provider

/-- The names under which a provider is looked up. The bare contract of providers needs no
    ancestors. -/
def providerKeys (table : SymbolTable) (decl : Declaration) : StateM Memo (List String) := do
  let keys ← decl.supertypes.mapM fun supertype => do
    if supertype.name = Contract.provider then pure (some decl.qualifiedName)
    else return providerKey? decl supertype (← isProvider table supertype)
  return firstOccurrences (keys.filterMap id)

end Memo

inductive Query where
  | ancestors (decl : Declaration)
  | firstMatch (decl : Declaration) (candidates : List String)
  | implements (decl : Declaration) (contract : String)
  | typeFirstMatch (type : TypeRef) (candidates : List String)
  | typeImplements (type : TypeRef) (contract : String)
  | routeKind (decl : Declaration)
  | valueKind (type : TypeRef)
  | isProvider (type : TypeRef)
  | providerKeys (decl : Declaration)

inductive Answer where
  | names (names : List String)
  | place (place : Option Nat)
  | truth (truth : Bool)
  | routeKind (kind : RouteKind)
  | valueKind (kind : ValueKind)
  deriving DecidableEq, Repr

namespace Query

/-- Answer a question from the table alone. -/
def answer (table : SymbolTable) : Query → Answer
  | .ancestors decl => .names (table.ancestors decl)
  | .firstMatch decl candidates => .place (table.firstMatch decl candidates)
  | .implements decl contract => .truth (table.implements decl contract)
  | .typeFirstMatch type candidates => .place (table.typeFirstMatch type candidates)
  | .typeImplements type contract => .truth (table.typeImplements type contract)
  | .routeKind decl => .routeKind (table.routeKind decl)
  | .valueKind type => .valueKind (table.valueKind type)
  | .isProvider type => .truth (table.isProvider type)
  | .providerKeys decl => .names (table.providerKeys decl)

/-- Answer a question from what is remembered, and remember what had to be found. -/
def answerFromMemo (table : SymbolTable) : Query → StateM Memo Answer
  | .ancestors decl => return .names (← Memo.ancestors table decl)
  | .firstMatch decl candidates => return .place (← Memo.firstMatch table decl candidates)
  | .implements decl contract => return .truth (← Memo.implements table decl contract)
  | .typeFirstMatch type candidates => return .place (← Memo.typeFirstMatch table type candidates)
  | .typeImplements type contract => return .truth (← Memo.typeImplements table type contract)
  | .routeKind decl => return .routeKind (← Memo.routeKind table decl)
  | .valueKind type => return .valueKind (← Memo.valueKind table type)
  | .isProvider type => return .truth (← Memo.isProvider table type)
  | .providerKeys decl => return .names (← Memo.providerKeys table decl)

end Query

end RouteAtlas
