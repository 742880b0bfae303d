import RouteAtlas.BuildError
import RouteAtlas.Contract
import RouteAtlas.QualifiedName
import RouteAtlas.SortedMap

/-! # Build options

What the host build asks for: the name of the module, and whether to write the route document.
-/

namespace RouteAtlas

/-- What the host build asks for. -/
structure BuildOptions where
  /-- Name of the module, fit for class names; none if nothing usable was given. -/
  moduleName : Option String := none
  /-- Whether to write the route document. -/
  docs : Bool := false
  deriving DecidableEq, Repr

namespace BuildOptions

/-- The usable part of a module name, if there is any. -/
def usableName? (raw : String) : Option String :=
  let name := QualifiedName.sanitize raw
  if name.isEmpty then none else some name

/-- The options that the arguments of a build ask for. -/
def ofArgs (args : SortedMap String String) : BuildOptions where
  moduleName := (args.get? Contract.moduleKey).bind usableName?
  docs := args.get? Contract.docsKey == some Contract.docsEnabled

/-- The same options with another module name. -/
def withModuleName (options : BuildOptions) (name : String) : BuildOptions :=
  { options with moduleName := usableName? name }

/-- The same options with or without the route document. -/
def withDocs (options : BuildOptions) (docs : Bool) : BuildOptions :=
  { options with docs }

/-- The module name, which the tables of a module need. -/
def requireModuleName (options : BuildOptions) : Except BuildError String :=
  match options.moduleName with
  | some name => .ok name
  | none => .error .missingModuleName

end BuildOptions

end RouteAtlas
