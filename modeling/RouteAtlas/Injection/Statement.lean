import RouteAtlas.Declaration.Basic
import RouteAtlas.Route.Kind
import RouteAtlas.ValueKind

/-! # Injection statements

What a generated injector does to fill in the fields of its target, free of any language's syntax.
-/

namespace RouteAtlas

/-- How a capability is looked up. -/
inductive LookupKey where
  /-- By the declared type of the field. -/
  | declaredType
  /-- By the path of a provider. -/
  | path (path : String)
  deriving DecidableEq, Repr

/-- What happens to a field that is null but may not be. -/
inductive NullAction where
  /-- The injection ends with an exception. -/
  | throw
  /-- A line is logged and the injection goes on. -/
  | log
  deriving DecidableEq, Repr

inductive Statement where
  /-- Read a scalar or a string by the getter of its kind. -/
  | scalarGet (field key : String) (kind : ValueKind) (source : ParamSource)
  /-- Read a parcelable or serializable value of the given type. -/
  | genericGet (field key : String) (kind : ValueKind) (type : TypeRef) (source : ParamSource)
  /-- Read a text and parse it as a value of the given type. If there is no service that parses,
      do the last statement instead. -/
  | jsonParse (field key : String) (type : TypeRef) (source : ParamSource) (unavailable : Statement)
  | serviceLookup (field : String) (type : TypeRef) (key : LookupKey)
  | nullCheck (field owner : String) (action : NullAction)
  | logWarn (message : String)
  deriving DecidableEq, Repr

namespace Statement

def field? : Statement → Option String
  | .scalarGet field .. | .genericGet field .. | .jsonParse field .. | .serviceLookup field ..
  | .nullCheck field .. => some field
  | .logWarn _ => none

def parsesJson : Statement → Bool
  | .jsonParse .. => true
  | _ => false

end Statement

/-- What the injector of one class does, in order. -/
structure InjectorPlan where
  /-- The class whose fields are filled in. -/
  target : TypeRef
  statements : List Statement
  deriving DecidableEq, Repr

/-- Whether the injector needs the service that parses. -/
def InjectorPlan.usesJson (plan : InjectorPlan) : Bool :=
  plan.statements.any Statement.parsesJson

/-- The message about a field that is null but may not be. -/
def nullMessage (field owner : String) : String :=
  "The field '" ++ field ++ "' is null, in class '" ++ owner ++ "' !"

end RouteAtlas
