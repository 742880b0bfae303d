/-! # Build errors

Why a declaration is dropped or a unit is not written. Most errors concern one declaration and the
build goes on; the fatal ones end the work of one processor for the round.
-/

namespace RouteAtlas

/-- Why a declaration is dropped or a unit is not written. -/
inductive BuildError where
  /-- A route on a class that cannot be navigated to. -/
  | unsupportedTarget (target : String)
  /-- A route whose path does not start with a slash. -/
  | invalidPath (path target : String)
  /-- A route without a group, whose path names none. -/
  | noGroup (path target : String)
  /-- A route whose group may not stand in a class name. -/
  | invalidGroup (group path target : String)
  /-- An injected field that the generated injector cannot reach. -/
  | inaccessibleField (field owner : String)
  /-- A parameter of a class that takes none. -/
  | illegalTarget (field owner : String)
  | duplicatePriority (priority : Int) (existing rejected : String)
  /-- Two routes with one path in one group. -/
  | duplicatePath (group path existing rejected : String)
  /-- An interceptor annotation on another class. -/
  | notAnInterceptor (target : String)
  /-- A table to be written for a module without a name. -/
  | missingModuleName
  /-- A unit that was written before with other content. -/
  | alreadyEmitted (key : String)
  /-- A unit that has no source. -/
  | render (key message : String)
  /-- A unit that could not be stored. -/
  | sink (key message : String)
  deriving DecidableEq, Repr

namespace BuildError

def message : BuildError → String
  | .unsupportedTarget target =>
    "The @Route is marked on unsupported class, look at [" ++ target ++ "]."
  | .invalidPath path target =>
    "Route path [" ++ path ++ "] of [" ++ target ++ "] must not be empty and must start with '/'"
  | .noGroup path target =>
    "Failed to extract default group from path [" ++ path ++ "] of [" ++ target ++ "]"
  | .invalidGroup group path target =>
    "Group [" ++ group ++ "] of path [" ++ path ++ "] in [" ++ target ++
      "] is not usable in a class name, only [0-9A-Za-z_] is allowed"
  | .inaccessibleField field owner =>
    "Autowired field can't be private! please check field [" ++ field ++ "] in class [" ++ owner ++
      "]"
  | .illegalTarget field owner =>
    "The field [" ++ field ++ "] need autowired from intent, its parent [" ++ owner ++
      "] must be activity or fragment!"
  | .duplicatePriority priority existing rejected =>
    "More than one interceptors use same priority [" ++ toString priority ++ "] : " ++ existing ++
      " & " ++ rejected
  | .duplicatePath group path existing rejected =>
    "Path [" ++ path ++ "] in group [" ++ group ++ "] is declared by both " ++ existing ++
      " and " ++ rejected
  | .notAnInterceptor target => "A interceptor verify failed, its " ++ target
  | .missingModuleName => "No module name, for more information, look at gradle log."
  | .alreadyEmitted key => "Unit [" ++ key ++ "] was already emitted with different content"
  | .render key message => "Failed to render [" ++ key ++ "]: " ++ message
  | .sink key message => "Failed to write [" ++ key ++ "]: " ++ message

/-- Whether the error ends the work of its processor for the round. -/
def isFatal : BuildError → Bool
  | .inaccessibleField .. | .duplicatePriority .. | .missingModuleName => true
  | _ => false

end BuildError

end RouteAtlas
