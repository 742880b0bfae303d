import RouteAtlas.Declaration.Basic
import RouteAtlas.Route.Kind
import RouteAtlas.SortedMap
import RouteAtlas.ValueKind

/-! # Route records

What is known of one route: its path and group, the class that it leads to, and the parameters that
this class takes.
-/

namespace RouteAtlas

/-- A field that is filled in from the parameters of a route. -/
structure FieldDirective where
  field : String
  valueKind : ValueKind
  /-- Whether the value may not be null. -/
  required : Bool := false
  /-- Key of the parameter, if it is not the name of the field. -/
  explicitName : Option String := none
  description : Option String := none
  deriving DecidableEq, Repr

namespace FieldDirective

/-- Key of the parameter that the field is filled in from. -/
def key (directive : FieldDirective) : String :=
  directive.explicitName.getD directive.field

end FieldDirective

structure RouteRecord where
  path : String
  kind : RouteKind
  /-- The class that the route leads to. -/
  target : TypeRef
  /-- Group of the route; none or empty if it is to be taken from the path. -/
  group : Option String := none
  /-- Bits handed over to the navigation runtime. -/
  extra : Int := -2147483648
  /-- Order among the targets of the runtime. -/
  priority : Int := -1
  description : Option String := none
  /-- The fields that are filled in from parameters, by name. -/
  fields : SortedMap String FieldDirective := .empty
  /-- Names under which a provider is looked up besides its path. -/
  providerKeys : List String := []
  deriving DecidableEq

namespace RouteRecord

/-- Group of the route, empty if it has none. -/
def groupName (record : RouteRecord) : String :=
  record.group.getD ""

/-- The numbers of the kinds of the parameters, by key; of fields with one key the last counts. -/
def paramCodes (record : RouteRecord) : SortedMap String Int :=
  .ofList (record.fields.values.map fun directive => (directive.key, directive.valueKind.code))

end RouteRecord

end RouteAtlas
