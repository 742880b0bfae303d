import RouteAtlas.Declaration.Reader
import RouteAtlas.Host.FileTree
import RouteAtlas.SymbolTable.Search

/-! # Failures of commands

Why a command does not do what it was asked to.
-/

namespace RouteAtlas

/-- Why a snapshot is not read from a file. -/
inductive LoadError where
  | unreadable (error : OsError)
  | refused (error : Json.DecodeError)
  deriving DecidableEq, Repr

/-- Wording of why a snapshot is not read. -/
def LoadError.message : LoadError → String
  | .unreadable error => error.message
  | .refused error => Snapshot.refusal error

/-- Why a command does not do what it was asked to. -/
inductive Failure where
  /-- A build without a snapshot. -/
  | noSnapshots
  /-- An output directory without a name. -/
  | emptyDirectory
  /-- A language that no sources are generated in. -/
  | unknownLanguage (name : String)
  /-- A module name of which nothing may stand in a class name. -/
  | unusableModule (name : String)
  | unreadableConfig (path : String)
  | malformedConfig (path : String)
  /-- A configuration that is to be checked but cannot be loaded. -/
  | noConfig
  | configExists (path : String)
  | unwritableConfig (path : String)
  | noSymbols (path : String) (error : LoadError)
  | notFound (reason : NotFound)
  /-- A build with units that failed or processors that gave up. -/
  | unclean (failed fatal : Nat)
  deriving DecidableEq, Repr

def Failure.message : Failure → String
  | .noSnapshots => "No symbol snapshots given. Pass at least one --symbols <file>."
  | .emptyDirectory => "[output] dir cannot be empty"
  | .unknownLanguage name =>
    "Unknown backend '" ++ name ++ "' (expected 'kotlin' or 'java')"
  | .unusableModule name =>
    Contract.moduleKey ++ " '" ++ name ++ "' has no usable characters (allowed: [0-9A-Za-z_])"
  | .unreadableConfig path => "Failed to read config file: " ++ path
  | .malformedConfig path => "Failed to parse config file: " ++ path
  | .noConfig =>
    "Failed to load configuration. Run `arouter-gen config init` to create a configuration file."
  | .configExists path =>
    "Configuration file already exists: " ++ path ++
      "\nUse a different path or remove the existing file."
  | .unwritableConfig path => "Failed to write config file: " ++ path
  | .noSymbols path error =>
    "Failed to load symbols '" ++ path ++ "': Parse error in " ++ path ++ ": " ++ error.message
  | .notFound reason => reason.message
  | .unclean failed fatal =>
    "generation finished with " ++ toString failed ++ " failed unit(s) and " ++ toString fatal ++
      " fatal error(s)"

def FileTree.loadSymbols (tree : FileTree) (path : String) : Except Failure Snapshot :=
  match tree.read path with
  | .error error => .error (.noSymbols path (.unreadable error))
  | .ok text =>
    match Snapshot.parse text with
    | .error error => .error (.noSymbols path (.refused error))
    | .ok snapshot => .ok snapshot

end RouteAtlas
