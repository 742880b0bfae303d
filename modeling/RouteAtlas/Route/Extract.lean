import RouteAtlas.Classification
import RouteAtlas.Diagnostic
import RouteAtlas.Route.Record

/-! # Routes from declarations

An annotated class becomes a route record if it can be navigated to. Screens and their parts bring
the fields that are filled in from parameters, providers the names under which they are looked up.
-/

namespace RouteAtlas

namespace SymbolTable

/-- How a property is filled in from a parameter; nothing for a property that is not annotated or
    that holds a capability, which is looked up. -/
def fieldDirective (table : SymbolTable) (property : Property) : Option FieldDirective :=
  property.directive.bind fun mark =>
    if table.isProvider property.type then none
    else some
      { field := property.name
        valueKind := table.valueKind property.type
        required := mark.required
        explicitName := given? mark.name
        description := given? mark.description }

/-- The fields that are filled in from parameters, by name; of properties with one name the last
    counts. -/
def fieldDirectives (table : SymbolTable) (decl : Declaration) : SortedMap String FieldDirective :=
  .ofList ((decl.properties.filterMap table.fieldDirective).map fun directive =>
    (directive.field, directive))

/-- The route of an annotated class, which is to be of a known kind. -/
def extractRoute (table : SymbolTable) (decl : Declaration) : Except BuildError RouteRecord :=
  match decl.marks.route with
  | none => .error (.unsupportedTarget decl.qualifiedName)
  | some mark =>
    let kind := table.routeKind decl
    if kind = .unknown then .error (.unsupportedTarget decl.qualifiedName)
    else .ok
      { path := mark.path
        kind
        target := decl.asType
        group := given? mark.group
        extra := mark.extras
        priority := mark.priority
        description := given? mark.name
        fields := if kind.takesParameters then table.fieldDirectives decl else .empty
        providerKeys := if kind = .provider then table.providerKeys decl else [] }

/-- What is reported of one class. -/
def extractionLog (table : SymbolTable) (decl : Declaration) : Diagnostics :=
  match table.extractRoute decl with
  | .ok record =>
    Diagnostics.info
      (progress ("Found " ++ record.kind.label ++ " route: " ++ decl.qualifiedName))
  | .error error => Diagnostics.report error decl.qualifiedName

/-- What came of several annotated classes. -/
structure Extraction where
  /-- The routes, in order of their classes. -/
  records : List RouteRecord
  /-- How many classes are no routes. -/
  failed : Nat
  log : Diagnostics

/-- The routes of several annotated classes. -/
def extractRoutes (table : SymbolTable) (decls : List Declaration) : Extraction where
  records := decls.filterMap fun decl => (table.extractRoute decl).toOption
  failed := decls.countP fun decl => (table.extractRoute decl).toOption.isNone
  log := decls.flatMap table.extractionLog

end SymbolTable

end RouteAtlas
