import RouteAtlas.Host.Config
import RouteAtlas.Host.Desk

/-! # Managing configurations

Writing a first configuration, and checking one.
-/

namespace RouteAtlas

namespace Config

def starter (moduleName : Option String) (docs : Bool) : Config where
  args := .ofList ((moduleName.map fun name => (Contract.moduleKey, name)).toList
    ++ if docs then [(Contract.docsKey, Contract.docsEnabled)] else [])

/-- The arguments that no build looks at. -/
def unusedArgs (config : Config) : List (String × String) :=
  config.args.entries.filter fun entry =>
    decide (entry.1 ≠ Contract.moduleKey ∧ entry.1 ≠ Contract.docsKey)

/-- What is printed of a valid configuration. -/
def lines (config : Config) : List String :=
  let module :=
    match config.options.moduleName with
    | some name => "Module: " ++ name
    | none => Notice.warning "No module name, only group tables will be generated"
  let docs := if config.options.docs then [Notice.detail ("Docs: " ++ config.docsPlace)] else []
  let unused :=
    if config.unusedArgs.isEmpty then []
    else "" :: Notice.bullet ("Unused args (" ++ toString config.unusedArgs.length ++ "):")
      :: config.unusedArgs.map fun (name, content) =>
        Notice.detail (Notice.bullet (name ++ " = " ++ content))
  Notice.detail module :: Notice.detail ("Backend: " ++ config.language)
    :: Notice.detail ("Output: " ++ config.directory) :: docs ++ unused

end Config

/-- What to do after a first configuration was written. -/
def nextSteps : List String :=
  ["Next steps:",
    Notice.detail "arouter-gen config validate to verify your configuration",
    Notice.detail "arouter-gen generate --symbols <snapshot.json> to generate sources"]

/-- Write a first configuration where there is none. -/
def initConfig (path : String) (moduleName : Option String) (docs : Bool) : Work Unit := do
  let tree ← Work.tree
  if tree.exists? path then throw (.configExists path)
  let config := Config.starter moduleName docs
  let _ ← config.check
  match tree.write path config.write with
  | .error _ => throw (.unwritableConfig path)
  | .ok written =>
    Work.setTree written
    Work.lines [Notice.success ("Created " ++ path), ""]
    if moduleName.isNone then
      Work.line (Notice.warning ("No module name set. Add " ++ Contract.moduleKey
        ++ " under [args] before generating root tables."))
    Work.lines nextSteps

/-- Check a configuration and print what it says. -/
def validateConfig (path : String) : Work Unit := do
  Work.line (Notice.step "Validating configuration...")
  match (← Work.tree).loadConfig path with
  | .error _ => throw .noConfig
  | .ok config =>
    Work.lines [Notice.success "Configuration is valid!", ""]
    Work.lines config.lines

end RouteAtlas
