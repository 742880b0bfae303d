import RouteAtlas.Contract
import RouteAtlas.Source.Basic
import RouteAtlas.Text.Literal
import RouteAtlas.Unit.Basic

/-! # Java sources

The classes that a unit mentions, in the order of its text, and the lines of its class, given how
each of those is written. Types of the Kotlin library go by their Java names.
-/

namespace RouteAtlas.Source.Java

/-- Packages whose members need no import. -/
def implicitPackages : List String := ["java.lang"]

def margin : String := "  "

def literal (raw : String) : String :=
  Text.literal raw false

/-- Types of the Kotlin library and what they are in Java. -/
def libraryNames : List (String × String) :=
  [("kotlin.Any", "java.lang.Object"), ("kotlin.String", "java.lang.String"),
    ("kotlin.CharSequence", "java.lang.CharSequence"), ("kotlin.Int", "java.lang.Integer"),
    ("kotlin.Long", "java.lang.Long"), ("kotlin.Short", "java.lang.Short"),
    ("kotlin.Byte", "java.lang.Byte"), ("kotlin.Char", "java.lang.Character"),
    ("kotlin.Float", "java.lang.Float"), ("kotlin.Double", "java.lang.Double"),
    ("kotlin.Boolean", "java.lang.Boolean"),
    ("kotlin.collections.List", "java.util.List"),
    ("kotlin.collections.MutableList", "java.util.List"),
    ("kotlin.collections.Set", "java.util.Set"),
    ("kotlin.collections.MutableSet", "java.util.Set"),
    ("kotlin.collections.Map", "java.util.Map"),
    ("kotlin.collections.MutableMap", "java.util.Map"),
    ("kotlin.collections.ArrayList", "java.util.ArrayList"),
    ("kotlin.collections.HashMap", "java.util.HashMap")]

def javaName (name : String) : String :=
  (libraryNames.lookup name).getD name

def classLines (name contract : String) (members : List String) : List String :=
  block margin ("public class " ++ name ++ " implements " ++ contract) members

def method (name parameter : String) (body : List String) : List String :=
  "@Override" :: block margin ("public void " ++ name ++ "(" ++ parameter ++ ")") body

mutual

def typeName (written : String → String) : TypeRef → String
  | ⟨name, arguments, _⟩ =>
    let base := written (javaName name)
    if arguments.isEmpty then base
    else base ++ "<" ++ commas (typeNames written arguments) ++ ">"

def typeNames (written : String → String) : List TypeRef → List String
  | [] => []
  | type :: rest => typeName written type :: typeNames written rest

end

def typeMentions (type : TypeRef) : List String :=
  type.names.map javaName

/-- The class object of a type, without its arguments. -/
def classLiteral (written : String → String) (type : TypeRef) : String :=
  written (javaName type.name) ++ ".class"

/-- Whether a value of the type has to be cast after it was read. -/
def needsCast (kind : ValueKind) : Bool :=
  kind == .serializable

def statementMentions : Statement → List String
  | .scalarGet .. => []
  | .genericGet _ _ kind type _ => if needsCast kind then typeMentions type else []
  | .jsonParse _ _ type _ unavailable =>
    Contract.typeWrapper :: typeMentions type ++ statementMentions unavailable
  | .serviceLookup _ type .declaredType => [Contract.launcher, javaName type.name]
  | .serviceLookup _ type (.path _) => Contract.launcher :: typeMentions type
  | .nullCheck _ _ .throw => []
  | .nullCheck _ _ .log => [Contract.androidLog]
  | .logWarn _ => [Contract.androidLog]

/-- The classes that every table of routes mentions. -/
def tableMentions : List String :=
  [Contract.javaMap, Contract.routeMeta, Contract.routeType]

def mentions : UnitBody → List String
  | .root _ => [Contract.routeRoot, Contract.routeGroup, Contract.javaMap]
  | .group _ routes =>
    Contract.routeGroup :: tableMentions ++ routes.map fun r => javaName r.target.name
  | .providers entries =>
    Contract.providerGroup :: tableMentions ++ entries.map fun entry => javaName entry.2.target.name
  | .interceptors hooks =>
    [Contract.interceptorGroup, Contract.interceptor, Contract.javaMap] ++
      hooks.map fun hook => javaName hook.target.name
  | .injector plan =>
    [Contract.syringe, plan.target.name]
      ++ (if plan.usesJson then [Contract.jsonService, Contract.launcher] else [])
      ++ plan.statements.flatMap statementMentions

/-- The expression that reads a parameter. Scalars and strings keep the field's value if there is
    no parameter. -/
def read (source : ParamSource) (kind : ValueKind) (key field : String) : String :=
  let argument := "(" ++ literal key ++ ")"
  let withDefault := "(" ++ literal key ++ ", substitute." ++ field ++ ")"
  match source, kind with
  | .intentExtras, .string =>
    "substitute.getIntent().getExtras() == null ? substitute." ++ field ++
      " : substitute.getIntent().getExtras().getString" ++ withDefault
  | .intentExtras, .parcelable => "substitute.getIntent().getParcelableExtra" ++ argument
  | .intentExtras, .serializable => "substitute.getIntent().getSerializableExtra" ++ argument
  | .intentExtras, .object => "substitute.getIntent().getStringExtra" ++ argument
  | .intentExtras, scalar =>
    "substitute.getIntent().get" ++ scalar.getter ++ "Extra" ++ withDefault
  | .arguments, .parcelable => "substitute.getArguments().getParcelable" ++ argument
  | .arguments, .serializable => "substitute.getArguments().getSerializable" ++ argument
  | .arguments, .object => "substitute.getArguments().getString" ++ argument
  | .arguments, plain => "substitute.getArguments().get" ++ plain.getter ++ withDefault

def logLine (written : String → String) (message : String) : String :=
  written Contract.androidLog ++ ".e(" ++ commas [literal Contract.logTag, literal message] ++ ");"

def statementLines (written : String → String) : Statement → List String
  | .scalarGet field key kind source =>
    ["substitute." ++ field ++ " = " ++ read source kind key field ++ ";"]
  | .genericGet field key kind type source =>
    let cast := if needsCast kind then "(" ++ typeName written type ++ ") " else ""
    ["substitute." ++ field ++ " = " ++ cast ++ read source kind key field ++ ";"]
  | .jsonParse field key type source unavailable =>
    let wrapper := written Contract.typeWrapper
    ["if (null != serializationService) \x7b",
      margin ++ "substitute." ++ field ++ " = serializationService.parseObject(" ++
        read source .object key field ++ ", new " ++ wrapper ++ "<" ++ typeName written type ++
        ">()\x7b\x7d.getType());"]
      ++ block margin "\x7d else" (statementLines written unavailable)
  | .serviceLookup field type key =>
    let locator := written Contract.launcher ++ ".getInstance()"
    let found := match key with
      | .declaredType => locator ++ ".navigation(" ++ classLiteral written type ++ ")"
      | .path path =>
        "(" ++ typeName written type ++ ")" ++ locator ++ ".build(" ++ literal path ++
          ").navigation()"
    ["substitute." ++ field ++ " = " ++ found ++ ";"]
  | .nullCheck field owner action =>
    let message := nullMessage field owner
    block margin ("if (null == substitute." ++ field ++ ")")
      [match action with
        | .throw => "throw new RuntimeException(" ++ literal message ++ ");"
        | .log => logLine written message]
  | .logWarn message => [logLine written message]

/-- The map of the kinds of parameters, or null if there are none. -/
def paramsMap (record : RouteRecord) : String :=
  if record.paramCodes.isEmpty then "null"
  else
    "new java.util.HashMap<String, Integer>()\x7b\x7b" ++
      String.join (record.paramCodes.entries.map fun (key, code) =>
        "put(" ++ literal key ++ ", " ++ toString code ++ "); ") ++ "\x7d\x7d"

def routeEntry (written : String → String) (parameter key : String) (record : RouteRecord) :
    String :=
  parameter ++ ".put(" ++ literal key ++ ", " ++ written Contract.routeMeta ++ ".build(" ++
    commas
      [written Contract.routeType ++ "." ++ record.kind.runtimeName,
        classLiteral written record.target, literal record.path, literal record.groupName,
        paramsMap record, toString record.priority, toString record.extra] ++ "));"

/-- A table of routes under its parameter's name. -/
def routeTable (written : String → String) (name contract parameter : String)
    (entries : List (String × RouteRecord)) : List String :=
  classLines name (written contract) <|
    method Contract.loadInto
      (written Contract.javaMap ++ "<String, " ++ written Contract.routeMeta ++ "> " ++ parameter)
      (entries.map fun (key, record) => routeEntry written parameter key record)

/-- The lines of a unit's class. -/
def lines (written : String → String) (name : String) : UnitBody → List String
  | .root groups =>
    classLines name (written Contract.routeRoot) <|
      method Contract.loadInto
        (written Contract.javaMap ++ "<String, Class<? extends " ++ written Contract.routeGroup ++
          ">> routes")
        (groups.map fun (group, key) =>
          "routes.put(" ++ literal group ++ ", " ++ key.name ++ ".class);")
  | .group _ routes =>
    routeTable written name Contract.routeGroup "atlas" (routes.map fun r => (r.path, r))
  | .providers entries => routeTable written name Contract.providerGroup "providers" entries
  | .interceptors hooks =>
    classLines name (written Contract.interceptorGroup) <|
      method Contract.loadInto
        (written Contract.javaMap ++ "<Integer, Class<? extends " ++
          written Contract.interceptor ++ ">> interceptors")
        (hooks.map fun hook =>
          "interceptors.put(" ++ toString hook.priority ++ ", " ++
            classLiteral written hook.target ++ ");")
  | .injector plan =>
    let json := written Contract.jsonService
    let owner := written plan.target.name
    classLines name (written Contract.syringe) <|
      (if plan.usesJson then ["private " ++ json ++ " serializationService;", ""] else [])
      ++ method Contract.inject "Object target"
        ((if plan.usesJson then
          ["serializationService = " ++ written Contract.launcher ++ ".getInstance().navigation(" ++
            json ++ ".class);"] else [])
        ++ [owner ++ " substitute = (" ++ owner ++ ")target;"]
        ++ plan.statements.flatMap (statementLines written))

end RouteAtlas.Source.Java
