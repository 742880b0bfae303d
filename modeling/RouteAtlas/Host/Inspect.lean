import RouteAtlas.Classification
import RouteAtlas.Host.Desk
import RouteAtlas.Json.Value

/-! # Inspecting snapshots

What a snapshot holds, as a listing or as JSON: an overview, one declaration in detail, or the
annotated declarations with a given part in their names.
-/

namespace RouteAtlas

open Json (Value)

structure RouteLine where
  path : String
  kind : RouteKind
  target : String
  deriving DecidableEq, Repr

structure HookLine where
  priority : Int
  target : String
  deriving DecidableEq, Repr

/-- What a snapshot holds. -/
structure Overview where
  declarations : Nat
  /-- Names of the declarations with types that are not known. -/
  unresolved : List String
  routes : List RouteLine
  hooks : List HookLine
  /-- Names of the declarations with injected fields. -/
  owners : List String
  deriving DecidableEq, Repr

/-- Fill a text up with blanks on the right. -/
def padRight (width : Nat) (text : String) : String :=
  text ++ String.ofList (List.replicate (width - text.length) ' ')

/-- Fill a text up with blanks on the left. -/
def padLeft (width : Nat) (text : String) : String :=
  String.ofList (List.replicate (width - text.length) ' ') ++ text

/-- The line below the heading of a listing. -/
def headingRule : String :=
  String.ofList (List.replicate 60 '-')

/-- A listing with its heading, unless it is empty. -/
def listing (heading : String) (lines : List String) : List String :=
  if lines.isEmpty then [] else "" :: heading :: headingRule :: lines

namespace Overview

/-- What the declarations of a table hold. -/
def ofTable (table : SymbolTable) : Overview where
  declarations := table.size
  unresolved := (table.declarations.filter fun decl => !decl.resolved).map (·.qualifiedName)
  routes :=
    (table.declarations.filterMap fun decl =>
      decl.marks.route.map fun mark =>
        ⟨mark.path, table.routeKind decl, decl.qualifiedName⟩).mergeSort
      fun a b => decide (a.path ≤ b.path)
  hooks :=
    (table.declarations.filterMap fun decl =>
      decl.marks.hook.map fun mark => ⟨mark.priority, decl.qualifiedName⟩).mergeSort
      fun a b => decide (a.priority ≤ b.priority)
  owners :=
    (table.declarations.filter fun decl => decl.properties.any Property.isMarked).map
      (·.qualifiedName)

def toJson (overview : Overview) : Value :=
  .object [("declarations", .integer overview.declarations),
    ("unresolved", .texts overview.unresolved),
    ("routes", .array (overview.routes.map fun line =>
      .object [("path", .text line.path), ("kind", .text line.kind.dataName),
        ("target", .text line.target)])),
    ("interceptors", .array (overview.hooks.map fun line =>
      .object [("priority", .integer line.priority), ("target", .text line.target)])),
    ("injected_owners", .texts overview.owners)]

def counts (overview : Overview) : String :=
  toString overview.declarations ++ " declarations, " ++ toString overview.routes.length
    ++ " routes, " ++ toString overview.hooks.length ++ " interceptors, "
    ++ toString overview.owners.length ++ " injected owners"

def routeText (line : RouteLine) : String :=
  Notice.detail (padRight 32 line.path ++ " " ++ padRight 20 line.kind.listingName ++ " "
    ++ line.target)

def hookText (line : HookLine) : String :=
  Notice.detail (padLeft 4 (toString line.priority) ++ "  " ++ line.target)

def lines (overview : Overview) : List String :=
  let unresolved :=
    if overview.unresolved.isEmpty then []
    else "" :: Notice.warning (toString overview.unresolved.length ++ " unresolved:")
      :: overview.unresolved.map Notice.detail
  overview.counts :: listing "Routes" (overview.routes.map routeText)
    ++ listing "Interceptors" (overview.hooks.map hookText)
    ++ listing "Autowired" (overview.owners.map Notice.detail)
    ++ unresolved

end Overview

structure FieldLine where
  name : String
  typeName : String
  kind : ValueKind
  key : Option String
  required : Bool
  deriving DecidableEq, Repr

/-- A property of a declaration of a table in detail. -/
def FieldLine.ofProperty (table : SymbolTable) (property : Property) : FieldLine where
  name := property.name
  typeName := property.type.name
  kind := table.valueKind property.type
  key := property.directive.map fun mark => (given? mark.name).getD property.name
  required := (property.directive.map (·.required)).getD false

structure Detail where
  qualifiedName : String
  resolved : Bool
  ancestors : List String
  routeKind : Option RouteKind
  fields : List FieldLine
  deriving DecidableEq, Repr

/-- A part of the detail of a declaration, unless it is empty. -/
def part (heading : String) (lines : List String) : List String :=
  if lines.isEmpty then [] else "" :: Notice.detail heading :: lines.map fun line => "    " ++ line

namespace Detail

def ofDeclaration (table : SymbolTable) (decl : Declaration) : Detail where
  qualifiedName := decl.qualifiedName
  resolved := decl.resolved
  ancestors := table.ancestors decl
  routeKind := decl.marks.route.map fun _ => table.routeKind decl
  fields := decl.properties.map (FieldLine.ofProperty table)

def toJson (detail : Detail) : Value :=
  .object [("qualified_name", .text detail.qualifiedName), ("resolved", .bool detail.resolved),
    ("ancestors", .texts detail.ancestors),
    ("route_kind", .ofText? (detail.routeKind.map RouteKind.dataName)),
    ("fields", .array (detail.fields.map fun field =>
      .object [("name", .text field.name), ("type", .text field.typeName),
        ("value_kind", .text field.kind.lowerName), ("key", .ofText? field.key),
        ("required", .bool field.required)]))]

def fieldText (field : FieldLine) : String :=
  field.name ++ ": " ++ field.typeName ++ " [" ++ field.kind.name ++ "]" ++
    match field.key with
    | none => ""
    | some key => " <- \"" ++ key ++ "\"" ++ if field.required then " (required)" else ""

def lines (detail : Detail) : List String :=
  detail.qualifiedName :: (if detail.resolved then [] else [Notice.detail "unresolved"])
    ++ (detail.routeKind.map fun kind => Notice.detail ("route kind: " ++ kind.listingName)).toList
    ++ part "Ancestors" detail.ancestors
    ++ part "Fields" (detail.fields.map fieldText)

end Detail

def MarkKind.label : MarkKind → String
  | .route => "route"
  | .hook => "interceptor"
  | .wire => "autowired"
  | .param => "param"

/-- The line of a declaration that a search found. -/
def SearchHit.line (hit : SearchHit) : String :=
  let labels := ", ".intercalate (hit.marks.map MarkKind.label)
  Notice.detail (hit.qualifiedName ++ "  [" ++ labels ++ "]")

/-- The declarations of the snapshot in a file. -/
def loadTable (path : String) : Work SymbolTable := do
  let snapshot ← (← Work.tree).loadSymbols path
  return .ofList snapshot.declarations

/-- Print what the snapshot in a file holds, or the declaration with a given name. -/
def inspect (path : String) (name : Option String) (json : Bool) : Work Unit := do
  let table ← loadTable path
  match name with
  | none =>
    let overview := Overview.ofTable table
    if json then Work.line overview.toJson.pretty else Work.lines overview.lines
  | some name =>
    match table.find name with
    | .error reason => throw (.notFound reason)
    | .ok decl =>
      let detail := Detail.ofDeclaration table decl
      if json then Work.line detail.toJson.pretty else Work.lines detail.lines

/-- Print the annotated declarations of the snapshot in a file whose names hold the query. -/
def search (path query : String) : Work Unit := do
  let hits := (← loadTable path).search query
  if hits.isEmpty then Work.line ("No annotated declarations match '" ++ query ++ "'")
  else Work.lines (hits.map SearchHit.line)

end RouteAtlas
