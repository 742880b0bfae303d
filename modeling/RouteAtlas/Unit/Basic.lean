import RouteAtlas.Hook
import RouteAtlas.Injection.Statement
import RouteAtlas.Route.Table
import RouteAtlas.Unit.Key

/-! # Generated units

What is generated of a module: one unit for each group of routes, one each for the names of the
groups, for the providers and for the interceptors, and one for each class with injected fields.
-/

namespace RouteAtlas

/-- What a generated unit holds. -/
inductive UnitBody where
  /-- The groups of a module with the units of their routes. -/
  | root (groups : List (String × UnitKey))
  | group (name : String) (routes : List RouteRecord)
  | providers (entries : List (String × RouteRecord))
  /-- Interceptors in the order of their calls. -/
  | interceptors (hooks : List HookRecord)
  | injector (plan : InjectorPlan)
  deriving DecidableEq

/-- What sort of unit a body makes, as messages name it. -/
def UnitBody.label : UnitBody → String
  | .root _ => "root"
  | .group .. => "group"
  | .providers _ => "providers"
  | .interceptors _ => "interceptors"
  | .injector _ => "autowired"

/-- One class to be generated. -/
structure GeneratedUnit where
  key : UnitKey
  body : UnitBody
  /-- Names of the declarations that the unit is made of. -/
  originating : List String := []
  deriving DecidableEq

namespace RouteTable

/-- Names of the classes that records lead to. -/
def targetNames (records : List RouteRecord) : List String :=
  records.map fun r => r.target.name

def groupUnits (table : RouteTable) : List GeneratedUnit :=
  table.listing.map fun (name, records) =>
    ⟨.group name, .group name records, targetNames records⟩

def rootUnit (module : String) (table : RouteTable) : GeneratedUnit :=
  ⟨.root module, .root (table.groupNames.map fun name => (name, .group name)),
    targetNames table.records⟩

/-- The names under which a provider is looked up: its path, then its contracts. -/
def lookupKeys (record : RouteRecord) : List String :=
  record.path :: record.providerKeys

def providerUnit (module : String) (table : RouteTable) : GeneratedUnit :=
  ⟨.providers module,
    .providers (table.providers.flatMap fun r => (lookupKeys r).map fun key => (key, r)),
    targetNames table.providers⟩

def units (module : String) (table : RouteTable) : List GeneratedUnit :=
  table.groupUnits ++ [table.providerUnit module, table.rootUnit module]

end RouteTable

namespace HookTable

def unit (module : String) (table : HookTable) : GeneratedUnit :=
  ⟨.interceptors module, .interceptors table.hooks, table.hooks.map fun hook => hook.target.name⟩

variable {module : String} {table : HookTable}

@[simp] theorem key_unit : (table.unit module).key = .interceptors module := rfl

@[simp] theorem body_unit : (table.unit module).body = .interceptors table.hooks := rfl

@[simp] theorem originating_unit :
    (table.unit module).originating = table.hooks.map fun hook => hook.target.name := rfl

end HookTable

namespace InjectorPlan

def unit (plan : InjectorPlan) : GeneratedUnit :=
  ⟨.injector plan.target, .injector plan, [plan.target.name]⟩

variable {plan : InjectorPlan}

@[simp] theorem key_unit : plan.unit.key = .injector plan.target := rfl

@[simp] theorem body_unit : plan.unit.body = .injector plan := rfl

@[simp] theorem originating_unit : plan.unit.originating = [plan.target.name] := rfl

end InjectorPlan

end RouteAtlas
