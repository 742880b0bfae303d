import RouteAtlas.Declaration.Writer
import RouteAtlas.Json.Value
import RouteAtlas.Route.Table
import RouteAtlas.Source.Render

/-! # Route documents

The routes of a module as data for other tools: for each group its routes, ascending by path, with
the class that each leads to and the parameters that this class takes.
-/

namespace RouteAtlas

open Json (Value)

structure ParamDoc where
  key : String
  kind : ValueKind
  description : Option String
  required : Bool
  deriving DecidableEq, Repr

structure RouteDoc where
  group : String
  path : String
  description : Option String
  /-- Qualified name of the class that the route leads to. -/
  className : String
  kind : RouteKind
  /-- Bits handed over to the navigation runtime. -/
  mark : Int
  params : List ParamDoc
  deriving DecidableEq, Repr

namespace ParamDoc

/-- The parameter that a field is filled in from. -/
def ofDirective (directive : FieldDirective) : ParamDoc :=
  ⟨directive.key, directive.valueKind, directive.description, directive.required⟩

def toJson (doc : ParamDoc) : Value :=
  .object <|
    [("key", .text doc.key), ("type", .text doc.kind.lowerName)]
    ++ optionalMember "description" .text doc.description
    ++ [("required", .bool doc.required)]

end ParamDoc

namespace RouteDoc

/-- A route with the parameters that its class takes. -/
def ofRecord (record : RouteRecord) : RouteDoc where
  group := record.groupName
  path := record.path
  description := record.description
  className := record.target.name
  kind := record.kind
  mark := record.extra
  params :=
    if record.kind.takesParameters then record.fields.values.map .ofDirective else []

/-- A route as JSON. Parameters are left out if there are none. -/
def toJson (doc : RouteDoc) : Value :=
  .object <|
    [("group", .text doc.group), ("path", .text doc.path)]
    ++ optionalMember "description" .text doc.description
    ++ [("className", .text doc.className), ("type", .text doc.kind.label),
      ("mark", .integer doc.mark)]
    ++ if doc.params.isEmpty then [] else [("params", .array (doc.params.map ParamDoc.toJson))]

end RouteDoc

namespace RouteTable

/-- The routes of each group, as documented. -/
def docs (table : RouteTable) : List (String × List RouteDoc) :=
  table.listing.map fun (group, records) => (group, records.map .ofRecord)

def docsJson (table : RouteTable) : Value :=
  .object (table.docs.map fun (group, docs) => (group, .array (docs.map RouteDoc.toJson)))

def document (module : String) (table : RouteTable) : RenderedUnit :=
  let key : UnitKey := ⟨"", "arouter-map-of-" ++ module⟩
  { key, path := key.name ++ ".json", source := table.docsJson.pretty }

end RouteTable

end RouteAtlas
