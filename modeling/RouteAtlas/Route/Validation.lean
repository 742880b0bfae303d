import RouteAtlas.BuildError
import RouteAtlas.QualifiedName
import RouteAtlas.Route.Record

/-! # Validation of routes

A path starts with a slash. The group is the one given or else the first segment of the path, and it
becomes part of a class name, so it is made of letters, digits and underscores.
-/

namespace RouteAtlas

/-- Whether a path starts with a slash. -/
def isRooted (path : String) : Bool :=
  path.toList.head? == some '/'

/-- The text strictly between the first two slashes of a path that starts with a slash. -/
def deriveGroup? (path : String) : Option String :=
  match path.toList with
  | '/' :: rest =>
    if '/' ∈ rest then given? (String.ofList (rest.takeWhile (· != '/'))) else none
  | _ => none

/-- Whether a group may stand in a class name. -/
def isGroupName (group : String) : Bool :=
  group.toList.all QualifiedName.isWordChar

namespace RouteRecord

/-- The group given, or the one in the path. -/
def effectiveGroup? (record : RouteRecord) : Option String :=
  match record.group.bind given? with
  | some group => some group
  | none => deriveGroup? record.path

/-- The record with its group filled in, or the first rule that it breaks. -/
def validate (record : RouteRecord) : Except BuildError RouteRecord :=
  if !isRooted record.path then .error (.invalidPath record.path record.target.name)
  else
    match record.effectiveGroup? with
    | none => .error (.noGroup record.path record.target.name)
    | some group =>
      if isGroupName group then .ok { record with group := some group }
      else .error (.invalidGroup group record.path record.target.name)

end RouteRecord

end RouteAtlas
