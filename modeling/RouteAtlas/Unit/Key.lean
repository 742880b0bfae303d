import RouteAtlas.Contract
import RouteAtlas.Declaration.Basic

/-! # Names of generated units

A generated unit is one class. The tables of a module stand in a package of their own and are named
for the module or group; an injector stands beside its class.
-/

namespace RouteAtlas

/-- Package and simple name of a generated unit. -/
structure UnitKey where
  package : String
  name : String
  deriving DecidableEq, Repr

namespace UnitKey

def qualifiedName (key : UnitKey) : String :=
  if key.package.isEmpty then key.name else key.package ++ "." ++ key.name

/-- The unit that names the groups of a module. -/
def root (module : String) : UnitKey :=
  ⟨Contract.tablePackage, Contract.rootUnit ++ QualifiedName.sanitize module⟩

def group (group : String) : UnitKey :=
  ⟨Contract.tablePackage, Contract.groupUnit ++ group⟩

def providers (module : String) : UnitKey :=
  ⟨Contract.tablePackage, Contract.providersUnit ++ QualifiedName.sanitize module⟩

def interceptors (module : String) : UnitKey :=
  ⟨Contract.tablePackage, Contract.interceptorsUnit ++ QualifiedName.sanitize module⟩

/-- The unit that fills in the fields of a class. -/
def injector (owner : TypeRef) : UnitKey :=
  ⟨owner.package, owner.simpleName ++ Contract.injectorUnit⟩

/-- Where the source of a unit lies below the output directory. -/
def path (key : UnitKey) (extension : String) : String :=
  let file := key.name ++ "." ++ extension
  if key.package.isEmpty then file
  else key.package.map (fun c => if c = '.' then '/' else c) ++ "/" ++ file

end UnitKey

end RouteAtlas
