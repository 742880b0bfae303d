import RouteAtlas.Contract
import RouteAtlas.Source.Basic
import RouteAtlas.Text.Literal
import RouteAtlas.Unit.Basic

/-! # Kotlin sources

The classes that a unit mentions, in the order of its text, and the lines of its class, given how
each of those is written.
-/

namespace RouteAtlas.Source.Kotlin

/-- Packages whose members need no import. -/
def implicitPackages : List String := ["kotlin", "kotlin.collections"]

def margin : String := "    "

/-- A string literal. A dollar would start a template, so it is escaped. -/
def literal (raw : String) : String :=
  Text.literal raw true

/-- The name of a class where it is declared; a dollar is allowed only between backquotes. -/
def className (name : String) : String :=
  if '$' ∈ name.toList then "`" ++ name ++ "`" else name

def classLines (name contract : String) (members : List String) : List String :=
  block margin ("public class " ++ className name ++ " : " ++ contract) members

def method (name parameter : String) (body : List String) : List String :=
  block margin ("override fun " ++ name ++ "(" ++ parameter ++ ")") body

mutual

def typeName (written : String → String) : TypeRef → String
  | ⟨name, arguments, nullable⟩ =>
    let base := written name
    let list := if arguments.isEmpty then ""
      else "<" ++ commas (typeNames written arguments) ++ ">"
    base ++ list ++ if nullable then "?" else ""

def typeNames (written : String → String) : List TypeRef → List String
  | [] => []
  | type :: rest => typeName written type :: typeNames written rest

end

/-- The class object of a type, without its arguments. -/
def classLiteral (written : String → String) (type : TypeRef) : String :=
  written type.name ++ "::class.java"

def bundle : ParamSource → String
  | .intentExtras => "substitute.intent?.extras"
  | .arguments => "substitute.arguments"

def statementMentions : Statement → List String
  | .scalarGet .. => []
  | .genericGet _ _ _ type _ => type.names
  | .jsonParse _ _ type _ unavailable =>
    Contract.typeWrapper :: type.names ++ statementMentions unavailable
  | .serviceLookup _ type .declaredType => [Contract.launcher, type.name]
  | .serviceLookup _ type (.path _) => Contract.launcher :: type.names
  | .nullCheck _ _ .throw => []
  | .nullCheck _ _ .log => [Contract.androidLog]
  | .logWarn _ => [Contract.androidLog]

/-- The classes that the meta data of a route mention. -/
def routeMentions (record : RouteRecord) : List String :=
  [Contract.routeMeta, Contract.routeType, record.target.name]

def mentions : UnitBody → List String
  | .root _ => [Contract.routeRoot, Contract.routeGroup]
  | .group _ routes =>
    [Contract.routeGroup, Contract.routeMeta] ++ routes.flatMap routeMentions
  | .providers entries =>
    [Contract.providerGroup, Contract.routeMeta] ++
      entries.flatMap fun entry => routeMentions entry.2
  | .interceptors hooks =>
    [Contract.interceptorGroup, Contract.interceptor] ++ hooks.map fun hook => hook.target.name
  | .injector plan =>
    [Contract.syringe, Contract.launcher, plan.target.name]
      ++ (if plan.usesJson then [Contract.jsonService] else [])
      ++ plan.statements.flatMap statementMentions

def logLine (written : String → String) (message : String) : String :=
  written Contract.androidLog ++ ".e(" ++ commas [literal Contract.logTag, literal message] ++ ")"

def statementLines (written : String → String) : Statement → List String
  | .scalarGet field key kind source =>
    ["substitute." ++ field ++ " = " ++ bundle source ++ "?.get" ++ kind.getter ++ "(" ++
      literal key ++ ", substitute." ++ field ++ ") ?: substitute." ++ field]
  | .genericGet field key kind type source =>
    let type := typeName written type.nonNull
    let read :=
      if kind = .parcelable then
        bundle source ++ "?.getParcelable<" ++ type ++ ">(" ++ literal key ++ ")"
      else "(" ++ bundle source ++ "?.getSerializable(" ++ literal key ++ ") as? " ++ type ++ ")"
    ["substitute." ++ field ++ " = " ++ read ++ " ?: substitute." ++ field]
  | .jsonParse field key type source unavailable =>
    let type := typeName written type.nonNull
    let wrapper := written Contract.typeWrapper
    ["if (serializationService != null) \x7b",
      margin ++ "substitute." ++ field ++ " = serializationService?.parseObject<" ++ type ++ ">(" ++
        bundle source ++ "?.getString(" ++ literal key ++ "), (object : " ++ wrapper ++ "<" ++
        type ++ ">() \x7b\x7d).type) ?: substitute." ++ field]
      ++ block margin "\x7d else" (statementLines written unavailable)
  | .serviceLookup field type key =>
    let locator := written Contract.launcher ++ ".getInstance()"
    let found := match key with
      | .declaredType => locator ++ ".navigation(" ++ classLiteral written type ++ ")"
      | .path path =>
        locator ++ ".build(" ++ literal path ++ ").navigation() as? " ++
          typeName written type.nonNull
    ["substitute." ++ field ++ " = " ++ found]
  | .nullCheck field owner action =>
    let message := nullMessage field owner
    block margin ("if (substitute." ++ field ++ " == null)")
      [match action with
        | .throw => "throw RuntimeException(" ++ literal message ++ ")"
        | .log => logLine written message]
  | .logWarn message => [logLine written message]

/-- The map of the kinds of parameters, or null if there are none. -/
def paramsMap (record : RouteRecord) : String :=
  if record.paramCodes.isEmpty then "null"
  else
    "hashMapOf<String, Int>(" ++
      commas (record.paramCodes.entries.map fun (key, code) =>
        literal key ++ " to " ++ toString code) ++ ")"

def routeMeta (written : String → String) (record : RouteRecord) : String :=
  written Contract.routeMeta ++ ".build(" ++
    commas
      [written Contract.routeType ++ "." ++ record.kind.runtimeName,
        classLiteral written record.target, literal record.path, literal record.groupName,
        paramsMap record, toString record.priority, toString record.extra] ++ ")"

def routeEntry (written : String → String) (parameter key : String) (record : RouteRecord) :
    String :=
  parameter ++ ".put(" ++ literal key ++ ", " ++ routeMeta written record ++ ")"

/-- A table of routes under its parameter's name. -/
def routeTable (written : String → String) (name contract parameter : String)
    (entries : List (String × RouteRecord)) : List String :=
  classLines name (written contract) <|
    method Contract.loadInto
      (parameter ++ ": MutableMap<String, " ++ written Contract.routeMeta ++ ">")
      (entries.map fun (key, record) => routeEntry written parameter key record)

/-- The lines of a unit's class. -/
def lines (written : String → String) (name : String) : UnitBody → List String
  | .root groups =>
    classLines name (written Contract.routeRoot) <|
      method Contract.loadInto
        ("routes: MutableMap<String, Class<out " ++ written Contract.routeGroup ++ ">>")
        (groups.map fun (group, key) =>
          "routes.put(" ++ literal group ++ ", " ++ className key.name ++ "::class.java)")
  | .group _ routes =>
    routeTable written name Contract.routeGroup "atlas" (routes.map fun r => (r.path, r))
  | .providers entries => routeTable written name Contract.providerGroup "providers" entries
  | .interceptors hooks =>
    classLines name (written Contract.interceptorGroup) <|
      method Contract.loadInto
        ("interceptors: MutableMap<Int, Class<out " ++ written Contract.interceptor ++ ">>")
        (hooks.map fun hook =>
          "interceptors.put(" ++ toString hook.priority ++ ", " ++
            classLiteral written hook.target ++ ")")
  | .injector plan =>
    let json := written Contract.jsonService
    classLines name (written Contract.syringe) <|
      (if plan.usesJson then
        ["private var serializationService: " ++ json ++ "? = null", ""] else [])
      ++ method Contract.inject "target: Any?"
        ((if plan.usesJson then
          ["serializationService = " ++ written Contract.launcher ++
            ".getInstance().navigation(" ++ json ++ "::class.java)"] else [])
        ++ ["val substitute = target as " ++ written plan.target.name]
        ++ plan.statements.flatMap (statementLines written))

end RouteAtlas.Source.Kotlin
