import RouteAtlas.BuildError
import RouteAtlas.Classification
import RouteAtlas.Injection.Statement

/-! # From annotated fields to statements

A field that holds a capability is looked up, on any class. Every other field is read from the
parameters of its class, which has to be a screen or a part of one: scalars and strings by their
getters, parcelable and serializable values whole, all else as text that is parsed. A field that may
not be null is checked afterwards, scalars excepted.
-/

namespace RouteAtlas

/-- Fields are assigned from outside, so they may not be private. -/
def checkAccess (owner : Declaration) (property : Property) : Except BuildError Unit :=
  if property.visibility = .privateScope then
    .error (.inaccessibleField property.name owner.qualifiedName)
  else .ok ()

/-- The line logged when a text cannot be parsed for want of a service. -/
def unavailableMessage (field owner : String) : String :=
  "You want automatic inject the field '" ++ field ++ "' in class '" ++ owner ++
    "' , then you should implement 'SerializationService' to support object auto inject!"

/-- Look a field up, and throw if it is required and not there. -/
def lookupStatements (owner : Declaration) (property : Property) (mark : WireMark) :
    List Statement :=
  let key := match given? mark.name with
    | some path => LookupKey.path path
    | none => .declaredType
  .serviceLookup property.name property.type key ::
    if mark.required then [.nullCheck property.name owner.simpleName .throw] else []

/-- The statement that reads a field of the given kind. -/
def readStatement (owner : Declaration) (property : Property) (key : String) (kind : ValueKind)
    (source : ParamSource) : Statement :=
  match kind with
  | .parcelable | .serializable => .genericGet property.name key kind property.type source
  | .object =>
    .jsonParse property.name key property.type source
      (.logWarn (unavailableMessage property.name owner.simpleName))
  | _ => .scalarGet property.name key kind source

/-- Read a field, and log if it is required, may be null and is. -/
def readStatements (owner : Declaration) (property : Property) (mark : WireMark) (kind : ValueKind)
    (source : ParamSource) : List Statement :=
  readStatement owner property ((given? mark.name).getD property.name) kind source ::
    if mark.required && !kind.isScalar then [.nullCheck property.name owner.simpleName .log] else []

namespace SymbolTable

/-- The statements that fill in one field of a class of the given kind; none for a field that is
    not annotated. -/
def compileField (table : SymbolTable) (owner : Declaration) (ownerKind : RouteKind)
    (property : Property) : Except BuildError (List Statement) :=
  match checkAccess owner property with
  | .error error => .error error
  | .ok () =>
    match property.directive with
    | none => .ok []
    | some mark =>
      if table.isProvider property.type then .ok (lookupStatements owner property mark)
      else
        match ownerKind.paramSource? with
        | none => .error (.illegalTarget property.name owner.qualifiedName)
        | some source =>
          .ok (readStatements owner property mark (table.valueKind property.type) source)

/-- The plan that fills in the given fields of a class, in order. -/
def compileInjector (table : SymbolTable) (owner : Declaration) (properties : List Property) :
    Except BuildError InjectorPlan := do
  let statements ← properties.mapM (table.compileField owner (table.routeKind owner))
  return ⟨owner.asType, statements.flatten⟩

end SymbolTable

end RouteAtlas
