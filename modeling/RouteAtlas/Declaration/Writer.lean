import RouteAtlas.Declaration.Basic
import RouteAtlas.Json.Value

/-! # Snapshots to text

Written snapshots have every field, apart from empty type arguments and absent annotations.
-/

namespace RouteAtlas

open Json (Value)

/-- A member that is left out if there is nothing to write. -/
def optionalMember {α : Type} (key : String) (write : α → Value) :
    Option α → List (String × Value)
  | some value => [(key, write value)]
  | none => []

def Visibility.name : Visibility → String
  | .publicScope => "public"
  | .internalScope => "internal"
  | .protectedScope => "protected"
  | .privateScope => "private"

mutual

def TypeRef.toJson : TypeRef → Value
  | ⟨name, [], nullable⟩ => .object [("name", .text name), ("nullable", .bool nullable)]
  | ⟨name, first :: rest, nullable⟩ =>
    .object [("name", .text name), ("arguments", .array (first.toJson :: TypeRef.listToJson rest)),
      ("nullable", .bool nullable)]

def TypeRef.listToJson : List TypeRef → List Value
  | [] => []
  | type :: rest => type.toJson :: TypeRef.listToJson rest

end

def RouteMark.toJson (mark : RouteMark) : Value :=
  .object [("path", .text mark.path), ("group", .text mark.group), ("name", .text mark.name),
    ("extras", .integer mark.extras), ("priority", .integer mark.priority)]

def HookMark.toJson (mark : HookMark) : Value :=
  .object [("priority", .integer mark.priority), ("name", .text mark.name)]

/-- The annotation of an injected field as JSON. -/
def WireMark.toJson (mark : WireMark) : Value :=
  .object [("name", .text mark.name), ("required", .bool mark.required),
    ("desc", .text mark.description)]

/-- The older annotation of an injected field as JSON. -/
def ParamMark.toJson (mark : ParamMark) : Value :=
  .object [("name", .text mark.name), ("desc", .text mark.description)]

def Property.toJson (property : Property) : Value :=
  .object <|
    [("name", .text property.name), ("visibility", .text property.visibility.name),
      ("type", property.type.toJson)]
    ++ optionalMember "autowired" WireMark.toJson property.wire
    ++ optionalMember "param" ParamMark.toJson property.param

def ClassMarks.toJson (marks : ClassMarks) : Value :=
  .object <|
    optionalMember "route" RouteMark.toJson marks.route
    ++ optionalMember "interceptor" HookMark.toJson marks.hook

def Declaration.toJson (decl : Declaration) : Value :=
  .object [("qualified_name", .text decl.qualifiedName),
    ("visibility", .text decl.visibility.name),
    ("supertypes", .array (decl.supertypes.map TypeRef.toJson)),
    ("properties", .array (decl.properties.map Property.toJson)),
    ("annotations", decl.marks.toJson), ("resolved", .bool decl.resolved)]

def Snapshot.toJson (snapshot : Snapshot) : Value :=
  .object [("declarations", .array (snapshot.declarations.map Declaration.toJson))]

end RouteAtlas
