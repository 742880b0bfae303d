import RouteAtlas.Delivery
import RouteAtlas.Host.Config
import RouteAtlas.Host.Desk

/-! # Generating sources

The rounds of a build over snapshots from files, one a round, with sources and the route document
written below their directories.
-/

namespace RouteAtlas

/-- What a build is asked for. Values that are given go before those of the configuration. -/
structure GenerateRequest where
  /-- Files with snapshots, one a round. -/
  symbols : List String
  directory : Option String := none
  moduleName : Option String := none
  language : Option String := none
  docs : Bool := false
  docsDirectory : Option String := none
  deriving DecidableEq, Repr

/-- A configuration with what a request gives in place of its values. -/
def Config.override (config : Config) (request : GenerateRequest) : Config where
  args :=
    match request.moduleName with
    | some name => config.args.insert Contract.moduleKey name
    | none => config.args
  directory := request.directory.getD config.directory
  language := request.language.getD config.language
  docsDirectory := request.docsDirectory.or config.docsDirectory

/-- What the rounds of a build add up to. -/
structure Tally where
  rounds : Nat := 0
  written : Nat := 0
  unchanged : Nat := 0
  failed : Nat := 0
  fatal : Nat := 0
  /-- Names of the declarations that the last round put off. -/
  deferred : List String := []
  deriving DecidableEq, Repr

namespace Tally

/-- Add the counts of an outcome. -/
def absorb (tally : Tally) (outcome : RoundOutcome) : Tally :=
  { tally with
    written := tally.written + outcome.written
    unchanged := tally.unchanged + outcome.unchanged
    failed := tally.failed + outcome.failed
    fatal := tally.fatal + outcome.fatalErrors.length }

def addRound (tally : Tally) (outcome : RoundOutcome) : Tally :=
  { tally.absorb outcome with rounds := tally.rounds + 1, deferred := outcome.deferred }

/-- Whether no unit failed and no processor gave up. -/
def isClean (tally : Tally) : Bool :=
  tally.failed == 0 && tally.fatal == 0

/-- What is printed at the end of a build. -/
def summary (tally : Tally) : List String :=
  let counts := counted tally.written "unit" ++ " written, " ++ toString tally.unchanged
    ++ " unchanged across " ++ counted tally.rounds "round"
  let verdict :=
    if tally.isClean then Notice.success counts
    else Notice.error (counts ++ " (" ++ toString tally.failed ++ " failed, "
      ++ toString tally.fatal ++ " fatal)")
  let unresolved :=
    if tally.deferred.isEmpty then []
    else Notice.warning (counted tally.deferred.length "declaration"
      ++ " still unresolved after the last round:") :: tally.deferred.map Notice.bullet
  "" :: verdict :: unresolved

end Tally

/-- What is printed of a report. -/
def Report.notices (report : Report) : List String :=
  (report.emitted.written.map fun key => Notice.added key.qualifiedName)
    ++ (report.emitted.unchanged.map fun key => Notice.kept key.qualifiedName)
    ++ (report.emitted.failed.map fun (key, error) =>
      Notice.error (key.qualifiedName ++ ": " ++ error.message))
    ++ (report.fatal.map fun error =>
      Notice.error (report.processor.name ++ " processor: " ++ error.message)).toList

/-- What is printed of a round. -/
def RoundOutcome.notices (outcome : RoundOutcome) : List String :=
  outcome.reports.flatMap Report.notices

/-- How a build is run: its pipeline and its directories. -/
structure BuildPlan where
  pipeline : Pipeline
  directory : String
  docsDirectory : String

namespace BuildPlan

/-- Where the sources go. -/
def sink (plan : BuildPlan) : Sink (WriteOnce FileTree) :=
  .writeOnce (.files plan.directory)

/-- Where the route document goes. -/
def docsSink (plan : BuildPlan) : Sink (WriteOnce FileTree) :=
  .writeOnce (.files plan.docsDirectory)

/-- The plan of a request under a configuration. -/
def make (config : Config) (request : GenerateRequest) (language : Language) : BuildPlan where
  pipeline := ⟨config.options.withDocs (request.docs || config.options.docs), language⟩
  directory := config.directory
  docsDirectory := config.docsPlace

end BuildPlan

/-- A build under way. -/
structure Progress where
  /-- The build itself, with the files and the sources written so far. -/
  session : Session (WriteOnce FileTree)
  /-- The route documents written so far. -/
  documents : List (UnitKey × String) := []
  tally : Tally := {}

namespace Progress

/-- A build that starts with the given files. -/
def start (tree : FileTree) : Progress where
  session := { state := ⟨tree, []⟩ }

def tree (progress : Progress) : FileTree :=
  progress.session.state.inner

/-- Write a route document, and what is printed of it. -/
def writeDocument (plan : BuildPlan) (progress : Progress) (document : RenderedUnit) :
    List String × Progress :=
  let (result, after) := plan.docsSink.write ⟨progress.tree, progress.documents⟩ document
  let state := { progress.session.state with inner := after.inner }
  let next := { progress with
    session := { progress.session with state }
    documents := after.digests }
  match result with
  | .ok .written => ([Notice.added document.path], next)
  | .ok .unchanged => ([], next)
  | .error error =>
    ([Notice.error error.message],
      { next with tally := { next.tally with failed := next.tally.failed + 1 } })

/-- Write the route document of an outcome, if there is one. -/
def writeDocuments (plan : BuildPlan) (progress : Progress) (outcome : RoundOutcome) :
    List String × Progress :=
  match outcome.docs with
  | some document => progress.writeDocument plan document
  | none => ([], progress)

/-- The round of one delivery, and what is printed of it. -/
def deliver (plan : BuildPlan) (progress : Progress) (delivered : List Declaration) :
    List String × Progress :=
  let (outcome, session) := plan.pipeline.deliver plan.sink progress.session delivered
  let (printed, next) := { progress with session }.writeDocuments plan outcome
  (outcome.notices ++ printed, { next with tally := next.tally.addRound outcome })

/-- The tables after the last delivery, and what is printed of them. -/
def conclude (plan : BuildPlan) (progress : Progress) : List String × Progress :=
  let (outcome, session) := plan.pipeline.conclude plan.sink progress.session
  let (printed, next) := { progress with session }.writeDocuments plan outcome
  (outcome.notices ++ printed, { next with tally := next.tally.absorb outcome })

end Progress

/-- Run the rounds of snapshots from files; `number` is that of the first. -/
def runRounds (plan : BuildPlan) (number : Nat) (progress : Progress) :
    List String → Work Progress
  | [] => return progress
  | path :: rest => do
    let snapshot ← progress.tree.loadSymbols path
    let table := progress.session.carry.table snapshot.declarations
    Work.line (Notice.step ("Round " ++ toString number ++ " (" ++ path ++ ", "
      ++ counted table.size "declaration" ++ ")"))
    let (printed, next) := progress.deliver plan snapshot.declarations
    Work.setTree next.tree
    Work.lines printed
    runRounds plan (number + 1) next rest

def runPlan (plan : BuildPlan) (symbols : List String) : Work Unit := do
  Work.line (Notice.step ("Generating " ++ plan.pipeline.language.name ++ " sources into "
    ++ plan.directory))
  Work.lines (plan.pipeline.options.moduleName.map fun name =>
    Notice.detail ("module: " ++ name)).toList
  let progress ← runRounds plan 1 (.start (← Work.tree)) symbols
  Work.line (Notice.step "Writing routing tables")
  let (printed, last) := progress.conclude plan
  Work.setTree last.tree
  Work.lines printed
  Work.lines last.tally.summary
  if !last.tally.isClean then throw (.unclean last.tally.failed last.tally.fatal)

/-- Generate what is asked for, under the configuration in a file. Without a snapshot to read, the
    configuration is not looked at. -/
def generate (configPath : String) (request : GenerateRequest) : Work Unit := do
  if request.symbols.isEmpty then throw .noSnapshots
  let stored ← (← Work.tree).loadConfigOrDefault configPath
  let config := stored.override request
  let language ← config.check
  runPlan (.make config request language) request.symbols

end RouteAtlas
