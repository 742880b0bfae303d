import RouteAtlas.SymbolTable.Basic
import RouteAtlas.Text.Similarity

/-! # Finding declarations by name

Lookup by qualified or simple name, with suggestions for names that are not found, and search for a
part of a name among annotated declarations. Case is no difference in either.
-/

namespace RouteAtlas

/-- A name that may have been meant, with its distance from the one given. -/
structure Suggestion where
  candidate : String
  distance : Nat
  deriving DecidableEq, Repr

/-- The suggestion of one candidate, if it is another name and near enough: at distance zero if the
    names differ in case alone, at distance one if one of them holds the other, else at their edit
    distance if that is within the limit. -/
def suggest? (name : String) (limit : Nat) (candidate : String) : Option Suggestion :=
  let name' := Text.lower name
  let candidate' := Text.lower candidate
  if candidate = name then none
  else if candidate' = name' then some ⟨candidate, 0⟩
  else if Text.contains candidate' name' || Text.contains name' candidate' then some ⟨candidate, 1⟩
  else
    let distance := Text.editDistance name candidate
    if distance ≤ limit then some ⟨candidate, distance⟩ else none

/-- Order suggestions by distance, keeping the order of equally distant ones. -/
def nearestFirst (suggestions : List Suggestion) : List Suggestion :=
  suggestions.mergeSort fun a b => a.distance ≤ b.distance

/-- The candidates near enough to a name, nearest first. -/
def suggestSimilar (name : String) (candidates : List String) (limit : Nat) : List Suggestion :=
  nearestFirst (candidates.filterMap (suggest? name limit))

/-- Drop each suggestion whose candidate is that of the one before it. -/
def dropRepeats : List Suggestion → List Suggestion
  | [] => []
  | first :: rest => first :: after first.candidate rest
where
  /-- Drop the suggestions that repeat the candidate before them. -/
  after (before : String) : List Suggestion → List Suggestion
    | [] => []
    | next :: rest =>
      if next.candidate = before then after before rest
      else next :: after next.candidate rest

/-- A name that no declaration has, or that several have. -/
structure NotFound where
  name : String
  /-- Names that may have been meant, nearest first. -/
  suggestions : List Suggestion
  deriving DecidableEq, Repr

/-- Wording of a name that was not found. -/
def NotFound.message (failure : NotFound) : String :=
  "Declaration not found: '" ++ failure.name ++ "'" ++
    match failure.suggestions with
    | [] => ""
    | nearest :: _ => ". Did you mean: " ++ nearest.candidate ++ "?"

/-- Which annotation a declaration is found for. -/
inductive MarkKind where
  | route
  | hook
  | wire
  | param
  deriving DecidableEq, Repr

/-- A declaration found by a search, with its annotations. -/
structure SearchHit where
  qualifiedName : String
  marks : List MarkKind
  deriving DecidableEq, Repr

/-- The annotations of a class and its properties, each kind once. -/
def Declaration.markKinds (decl : Declaration) : List MarkKind :=
  (if decl.marks.route.isSome then [.route] else [])
    ++ (if decl.marks.hook.isSome then [.hook] else [])
    ++ (if decl.properties.any (·.wire.isSome) then [.wire] else [])
    ++ if decl.properties.any (·.param.isSome) then [.param] else []

namespace SymbolTable

/-- Names within this distance are suggested. -/
def suggestionLimit : Nat := 3

/-- The declarations with the given simple name, in order. -/
def withSimpleName (table : SymbolTable) (name : String) : List Declaration :=
  table.declarations.filter fun decl => decide (decl.simpleName = name)

/-- Suggestions for a name that is neither a qualified nor a simple name of the table. -/
def suggestions (table : SymbolTable) (name : String) : List Suggestion :=
  let qualified := suggestSimilar name table.names suggestionLimit
  let simple := suggestSimilar name (table.declarations.map Declaration.simpleName) suggestionLimit
  let owners := simple.filterMap fun near =>
    (table.declarations.find? fun decl => decide (decl.simpleName = near.candidate)).map
      fun decl => ⟨decl.qualifiedName, near.distance⟩
  dropRepeats (nearestFirst (qualified ++ owners))

/-- Look a declaration up by its qualified name, or by a simple name that it alone has. -/
def find (table : SymbolTable) (name : String) : Except NotFound Declaration :=
  match table.resolve name with
  | some decl => .ok decl
  | none =>
    match table.withSimpleName name with
    | [only] => .ok only
    | [] => .error ⟨name, table.suggestions name⟩
    | several => .error ⟨name, several.map fun decl => ⟨decl.qualifiedName, 0⟩⟩

/-- The annotated declarations whose qualified name holds the query, in order. -/
def search (table : SymbolTable) (query : String) : List SearchHit :=
  table.declarations.filterMap fun decl =>
    if Text.contains (Text.lower decl.qualifiedName) (Text.lower query) && !decl.markKinds.isEmpty
    then some ⟨decl.qualifiedName, decl.markKinds⟩
    else none

end SymbolTable

end RouteAtlas
