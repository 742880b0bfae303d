import RouteAtlas.Declaration.Basic
import RouteAtlas.Json.Decode

/-! # Snapshots from text

Snapshots are written in JSON. Every field but the identifying ones has a default, members with
other names are skipped, and containers nest at most 127 deep.
-/

namespace RouteAtlas

open Json (Doc DecodeError)
open Json.Decode (FieldReader)

def Visibility.names : List (String × Visibility) :=
  [("public", .publicScope), ("internal", .internalScope), ("protected", .protectedScope),
    ("private", .privateScope)]

namespace Declaration.Reader

def textField {α : Type} (name : String) (required : Bool) (put : α → String → α) :
    FieldReader α :=
  ⟨name, required, fun doc sofar => (Json.Decode.text doc).map (put sofar)⟩

/-- A field that holds a boolean and may be left out. -/
def boolField {α : Type} (name : String) (put : α → Bool → α) : FieldReader α :=
  ⟨name, false, fun doc sofar => (Json.Decode.bool doc).map (put sofar)⟩

def intField {α : Type} (name : String) (required : Bool) (put : α → Int → α) :
    FieldReader α :=
  ⟨name, required, fun doc sofar => (Json.Decode.int32 doc).map (put sofar)⟩

/-- A field read by a reader of its own. -/
def field {α β : Type} (name : String) (required : Bool) (read : Doc → Except DecodeError β)
    (put : α → β → α) : FieldReader α :=
  ⟨name, required, fun doc sofar => (read doc).map (put sofar)⟩

/-- A field that holds a scope, where `depth` more containers may be entered. -/
def visibilityField {α : Type} (depth : Nat) (put : α → Visibility → α) : FieldReader α :=
  field "visibility" false (Json.Decode.word depth Visibility.names) put

/-- The fields of a type, given a reader of its arguments. -/
def typeFields (arguments : Doc → Except DecodeError (List TypeRef)) :
    List (FieldReader TypeRef) :=
  [textField "name" true fun t name => { t with name },
    field "arguments" false arguments fun t arguments => { t with arguments },
    boolField "nullable" fun t nullable => { t with nullable }]

/-- Read a type. A list of arguments takes one level and each argument another. -/
def typeRef : (depth : Nat) → Doc → Except DecodeError TypeRef
  | 0 => Json.Decode.record "TypeRef" (typeFields fun _ => .error .malformed) (.named "") 0
  | 1 =>
    Json.Decode.record "TypeRef" (typeFields (Json.Decode.list 0 fun _ => .error .malformed))
      (.named "") 1
  | depth + 2 =>
    Json.Decode.record "TypeRef" (typeFields (Json.Decode.list (depth + 1) (typeRef depth)))
      (.named "") (depth + 2)

def routeMark (depth : Nat) : Doc → Except DecodeError RouteMark :=
  Json.Decode.record "RouteAnnotation"
    [textField "path" true fun m path => { m with path },
      textField "group" false fun m group => { m with group },
      textField "name" false fun m name => { m with name },
      intField "extras" false fun m extras => { m with extras },
      intField "priority" false fun m priority => { m with priority }]
    { path := "" } depth

/-- Read the annotation of an interceptor. -/
def hookMark (depth : Nat) : Doc → Except DecodeError HookMark :=
  Json.Decode.record "InterceptorAnnotation"
    [intField "priority" true fun m priority => { m with priority },
      textField "name" false fun m name => { m with name }]
    { priority := 0 } depth

/-- Read the annotation of an injected field. -/
def wireMark (depth : Nat) : Doc → Except DecodeError WireMark :=
  Json.Decode.record "AutowiredAnnotation"
    [textField "name" false fun m name => { m with name },
      boolField "required" fun m required => { m with required },
      textField "desc" false fun m description => { m with description }]
    {} depth

/-- Read the older annotation of an injected field. -/
def paramMark (depth : Nat) : Doc → Except DecodeError ParamMark :=
  Json.Decode.record "ParamAnnotation"
    [textField "name" false fun m name => { m with name },
      textField "desc" false fun m description => { m with description }]
    {} depth

def classMarks (depth : Nat) : Doc → Except DecodeError ClassMarks :=
  Json.Decode.record "ClassAnnotations"
    [field "route" false (Json.Decode.optional (routeMark (depth - 1))) fun m route =>
        { m with route },
      field "interceptor" false (Json.Decode.optional (hookMark (depth - 1))) fun m hook =>
        { m with hook }]
    {} depth

def property (depth : Nat) : Doc → Except DecodeError Property :=
  Json.Decode.record "PropertyDecl"
    [textField "name" true fun p name => { p with name },
      visibilityField (depth - 1) fun p visibility => { p with visibility },
      field "type" true (typeRef (depth - 1)) fun p type => { p with type },
      field "autowired" false (Json.Decode.optional (wireMark (depth - 1))) fun p wire =>
        { p with wire },
      field "param" false (Json.Decode.optional (paramMark (depth - 1))) fun p param =>
        { p with param }]
    { name := "", type := .named "" } depth

def declaration (depth : Nat) : Doc → Except DecodeError Declaration :=
  Json.Decode.record "ClassDecl"
    [textField "qualified_name" true fun d qualifiedName => { d with qualifiedName },
      visibilityField (depth - 1) fun d visibility => { d with visibility },
      field "supertypes" false (Json.Decode.list (depth - 1) (typeRef (depth - 2)))
        fun d supertypes => { d with supertypes },
      field "properties" false (Json.Decode.list (depth - 1) (property (depth - 2)))
        fun d properties => { d with properties },
      field "annotations" false (classMarks (depth - 1)) fun d marks => { d with marks },
      boolField "resolved" fun d resolved => { d with resolved }]
    { qualifiedName := "" } depth

def snapshot (depth : Nat) : Doc → Except DecodeError Snapshot :=
  Json.Decode.record "SymbolSnapshot"
    [field "declarations" false (Json.Decode.list (depth - 1) (declaration (depth - 2)))
      fun s declarations => { s with declarations }]
    {} depth

end Declaration.Reader

namespace Snapshot

/-- How deep the containers of a snapshot may nest. -/
def nestingLimit : Nat := 127

/-- The snapshot that a document holds. -/
def ofDoc (doc : Doc) : Except DecodeError Snapshot :=
  Declaration.Reader.snapshot nestingLimit doc

/-- The snapshot that a text holds, with nothing after it. -/
def parse (text : String) : Except DecodeError Snapshot := do
  let (doc, rest) := Doc.read text
  let snapshot ← ofDoc doc
  if rest.isEmpty then .ok snapshot else .error .malformed

def refusal (error : DecodeError) : String :=
  "Failed to parse symbol snapshot JSON: " ++ error.message

end Snapshot

end RouteAtlas
