import RouteAtlas.Proofs.Host.FileTree
import RouteAtlas.Proofs.Host.Work

/-! # Values on the command line

A command line that gives all values which it can give leaves nothing of them to the configuration.
What a build with snapshots comes to then depends on two things in the file: the other arguments,
and whether the file is valid on its own. A file that is not ends the build, also where each value
that is wrong with it was given on the command line.
-/

namespace RouteAtlas

namespace Config

/-- What is wrong with a configuration that is not valid. -/
def fault? (config : Config) : Option Failure :=
  match config.check with
  | .ok _ => none
  | .error failure => some failure

/-- Two configurations differ only in values that a command line can give: the directories, the
    language and the name of the module. -/
def SameBeyondFlags (first second : Config) : Prop :=
  ∀ key, key ≠ Contract.moduleKey → first.args.get? key = second.args.get? key

/-- A configuration has none of the values that a command line can give. -/
structure IsBare (config : Config) : Prop where
  directory : config.directory = ({} : Config).directory
  language : config.language = ({} : Config).language
  docsDirectory : config.docsDirectory = none
  moduleName : config.args.get? Contract.moduleKey = none

variable {config : Config} {failure : Failure}

theorem fault?_eq_some_iff : config.fault? = some failure ↔ config.check = .error failure := by
  unfold fault?
  cases config.check <;> simp

theorem fault?_eq_none_iff : config.fault? = none ↔ ∃ language, config.check = .ok language := by
  unfold fault?
  cases config.check <;> simp

theorem IsBare.fault?_eq_none (bare : config.IsBare) : config.fault? = none := by
  rw [fault?_eq_none_iff]
  refine ⟨.kotlin, ?_⟩
  unfold check
  rw [bare.directory, bare.language, bare.moduleName]
  rfl

/-- What is wrong with a configuration is found before the build is started. -/
theorem isOfBuild_fault (faulty : config.fault? = some failure) : failure.isOfBuild = false := by
  rw [fault?_eq_some_iff] at faulty
  unfold check at faulty
  split at faulty
  · cases faulty
    rfl
  · split at faulty
    · cases faulty
      rfl
    · split at faulty
      · cases faulty
      · split at faulty <;> cases faulty
        rfl

end Config

/-- A command line gives all values that it can give, each of them valid. -/
structure GenerateRequest.Complete (request : GenerateRequest) : Prop where
  directory : ∃ directory, request.directory = some directory ∧ directory.isEmpty = false
  language : ∃ name language, request.language = some name ∧ Language.ofName? name = some language
  moduleName : ∃ name, request.moduleName = some name ∧
    (BuildOptions.usableName? name).isSome = true
  docsDirectory : ∃ directory, request.docsDirectory = some directory

namespace GenerateRequest.Complete

variable {request : GenerateRequest} (complete : request.Complete)
include complete

/-- The values of the command line leave nothing of those in the configuration. -/
theorem override_eq {first second : Config} (same : first.SameBeyondFlags second) :
    first.override request = second.override request := by
  obtain ⟨directory, givenDirectory, -⟩ := complete.directory
  obtain ⟨language, -, givenLanguage, -⟩ := complete.language
  obtain ⟨name, givenName, -⟩ := complete.moduleName
  obtain ⟨docsDirectory, givenDocs⟩ := complete.docsDirectory
  have args : first.args.insert Contract.moduleKey name =
      second.args.insert Contract.moduleKey name := by
    apply SortedMap.ext_get?
    intro key
    rw [SortedMap.get?_insert, SortedMap.get?_insert]
    split
    · rfl
    · next other => exact same key other
  unfold Config.override
  rw [givenDirectory, givenLanguage, givenName, givenDocs]
  simp only [args, Option.getD_some, Option.some_or]

/-- The values of the command line are checked in place of those in the configuration. -/
theorem exists_check_override :
    ∃ language, ∀ config : Config, (config.override request).check = .ok language := by
  obtain ⟨directory, givenDirectory, filled⟩ := complete.directory
  obtain ⟨word, language, givenLanguage, known⟩ := complete.language
  obtain ⟨name, givenName, usable⟩ := complete.moduleName
  refine ⟨language, fun config => ?_⟩
  unfold Config.check Config.override
  rw [givenDirectory, givenLanguage, givenName]
  simp [filled, known, usable]

end GenerateRequest.Complete

section

variable {configPath : String} {request : GenerateRequest} {desk : Desk}

/-- A build without snapshots leaves all as it was. -/
theorem run_generate_of_nil (idle : request.symbols = []) :
    (generate configPath request).run.run desk = (.error .noSnapshots, desk) := by
  unfold generate
  rw [idle]
  rfl

/-- A build with snapshots starts with its configuration. -/
theorem generate_of_ne_nil (given : request.symbols ≠ []) :
    generate configPath request = (do
      let stored ← (← Work.tree).loadConfigOrDefault configPath
      let language ← (stored.override request).check
      runPlan (.make (stored.override request) request language) request.symbols) := by
  unfold generate
  rw [List.isEmpty_eq_false_iff.mpr given]
  rfl

/-- A build whose configuration is not loaded leaves all as it was. -/
theorem run_generate_of_error {failure : Failure} (given : request.symbols ≠ [])
    (loaded : desk.tree.loadConfigOrDefault configPath = .error failure) :
    (generate configPath request).run.run desk = (.error failure, desk) := by
  rw [generate_of_ne_nil given, Work.run_bind]
  change ((liftM (desk.tree.loadConfigOrDefault configPath) >>= fun _ => _ : Work Unit).run.run
    desk) = _
  rw [loaded]
  rfl

/-- A build goes by its configuration as the command line changes it. -/
theorem run_generate_of_ok {config : Config} {language : Language} (given : request.symbols ≠ [])
    (loaded : desk.tree.loadConfigOrDefault configPath = .ok config)
    (checked : (config.override request).check = .ok language) :
    (generate configPath request).run.run desk =
      (runPlan (.make (config.override request) request language) request.symbols).run.run
        desk := by
  rw [generate_of_ne_nil given, Work.run_bind]
  change ((liftM (desk.tree.loadConfigOrDefault configPath) >>= fun _ => _ : Work Unit).run.run
    desk) = _
  rw [loaded, Work.run_ok_bind, checked, Work.run_ok_bind]

end

/-- A text that gives a configuration. -/
structure ConfigFile where
  text : String
  config : Config
  parsed : Config.parse text = some config

/-- Files with a given configuration at a place. -/
def FileTree.withConfig (tree : FileTree) (place : Place) (file : ConfigFile) : FileTree :=
  tree.put place (.file file.text)

/-- A path may lead to a place, depending on what stands on the way. -/
def FileTree.MayLead (path : String) (place : Place) : Prop :=
  ∃ (tree : FileTree) (reached : Place), tree.locate path = .ok reached ∧
    reached.path = place.path

/-- What a build comes to over files with a given configuration at a place. -/
def generateWith (tree : FileTree) (configPath : String) (place : Place)
    (request : GenerateRequest) (file : ConfigFile) : Except Failure Unit × Desk :=
  (generate configPath request).run.run { tree := tree.withConfig place file }

/-- Builds with one configuration or another come to the same: they end the same way, print the
    same, and leave the same files, but that each may leave its configuration where it was. -/
def SameBuilds (tree : FileTree) (configPath : String) (place : Place) (request : GenerateRequest)
    (first second : ConfigFile) : Prop :=
  Work.Same (FileTree.Twins place.path first.text second.text) Eq
    (generateWith tree configPath place request first)
    (generateWith tree configPath place request second)

section

variable {tree : FileTree} {configPath held : String} {place : Place} {request : GenerateRequest}
  {first second : ConfigFile}

section

variable (located : tree.locate configPath = .ok place)
  (stands : tree.node? place = some (.file held))

/-- Without a snapshot no configuration is read. -/
theorem generateWith_of_nil (idle : request.symbols = []) :
    generateWith tree configPath place request first =
      (.error .noSnapshots, { tree := tree.withConfig place first }) :=
  run_generate_of_nil idle

include located stands

/-- A configuration is checked as soon as it is read. -/
theorem loadConfigOrDefault_withConfig (file : ConfigFile) :
    (tree.withConfig place file).loadConfigOrDefault configPath =
      file.config.check.map fun _ => file.config := by
  have there := FileTree.node?_put_file stands (.file file.text)
  have led : (tree.withConfig place file).locate configPath = .ok place := by
    rw [FileTree.withConfig, FileTree.locate_put_file stands, located]
  have found : (tree.withConfig place file).exists? configPath = true := by
    rw [FileTree.exists?, led]
    simp only [FileTree.withConfig, there, Option.isSome_some]
  have content : (tree.withConfig place file).read configPath = .ok file.text := by
    rw [FileTree.read, led]
    simp only [bind, Except.bind, FileTree.withConfig, there]
  rw [FileTree.loadConfigOrDefault, if_pos found, FileTree.loadConfig, content]
  simp only [file.parsed]

variable (given : request.symbols ≠ [])
include given

theorem generateWith_of_fault {failure : Failure} (faulty : first.config.fault? = some failure) :
    generateWith tree configPath place request first =
      (.error failure, { tree := tree.withConfig place first }) := by
  apply run_generate_of_error given
  rw [loadConfigOrDefault_withConfig located stands, Config.fault?_eq_some_iff.mp faulty]
  rfl

theorem generateWith_of_valid {language : Language} (valid : first.config.fault? = none)
    (checked : (first.config.override request).check = .ok language) :
    generateWith tree configPath place request first =
      (runPlan (.make (first.config.override request) request language) request.symbols).run.run
        { tree := tree.withConfig place first } := by
  obtain ⟨_, sound⟩ := Config.fault?_eq_none_iff.mp valid
  apply run_generate_of_ok given _ checked
  rw [loadConfigOrDefault_withConfig located stands, sound]
  rfl

variable (complete : request.Complete)
include complete

/-- What is wrong with a configuration shows: a build that is started does not fail for it. -/
theorem generateWith_error_iff {failure : Failure} (early : failure.isOfBuild = false) :
    (generateWith tree configPath place request first).1 = .error failure ↔
      first.config.fault? = some failure := by
  constructor
  · intro failed
    cases fault : first.config.fault? with
    | some other =>
        rw [generateWith_of_fault located stands given fault] at failed
        cases failed
        rfl
    | none =>
        obtain ⟨language, checked⟩ := complete.exists_check_override
        rw [generateWith_of_valid located stands given fault (checked _)] at failed
        rw [failsLate_runPlan _ _ _ _ failed] at early
        cases early
  · intro fault
    rw [generateWith_of_fault located stands given fault]

theorem fault?_eq_of_same (same : SameBuilds tree configPath place request first second) :
    first.config.fault? = second.config.fault? := by
  have result := matched_eq_iff.mp same.result
  apply Option.ext
  intro failure
  constructor <;> intro fault
  · have early := Config.isOfBuild_fault fault
    rw [← generateWith_error_iff located stands given complete early] at fault ⊢
    rw [← result, fault]
  · have early := Config.isOfBuild_fault fault
    rw [← generateWith_error_iff located stands given complete early] at fault ⊢
    rw [result, fault]

end

/-- The rounds of a build read the same snapshots, whichever configuration stands there. -/
theorem sameSnapshots_of_apart
    (apart : (∃ path ∈ request.symbols, FileTree.MayLead path place) →
      Snapshot.parse first.text = Snapshot.parse second.text) :
    SameSnapshots (FileTree.Twins place.path first.text second.text) request.symbols := by
  intro path known left right twins
  unfold FileTree.loadSymbols
  rcases twins.read path with alike | ⟨reached, located, key, leftText, rightText⟩
  · rw [alike]
  · rw [leftText, rightText]
    simp only [apart ⟨path, known, left, reached, located, key⟩]

/-- Configurations that differ only in what the command line gives lead to the same if nothing is
    wrong with them. -/
theorem sameBuilds_of_valid (located : tree.locate configPath = .ok place)
    (stands : tree.node? place = some (.file held)) (given : request.symbols ≠ [])
    (complete : request.Complete)
    (alike : first.config.SameBeyondFlags second.config)
    (apart : (∃ path ∈ request.symbols, FileTree.MayLead path place) →
      Snapshot.parse first.text = Snapshot.parse second.text)
    (valid : first.config.fault? = none) (otherValid : second.config.fault? = none) :
    SameBuilds tree configPath place request first second := by
  obtain ⟨language, checked⟩ := complete.exists_check_override
  unfold SameBuilds
  rw [generateWith_of_valid located stands given valid (checked _),
    generateWith_of_valid located stands given otherValid (checked _), complete.override_eq alike]
  exact runPlan_alike (fun directory => FileTree.respects_files directory _ _ _) _
    (sameSnapshots_of_apart apart) _ _ rfl (FileTree.Twins.of_put _ _ _ _)

end

/-- How far a complete command line overrides what a configuration says. -/
structure OverrideLaw (tree : FileTree) (configPath : String) (place : Place)
    (request : GenerateRequest) (first second : ConfigFile) : Prop where
  /-- Two configurations lead to the same exactly if the same is wrong with them, or nothing, or no
      snapshot is given. -/
  same_iff : SameBuilds tree configPath place request first second ↔
    request.symbols = [] ∨ first.config.fault? = second.config.fault?
  /-- One with values of its own leads to the same as one without exactly if it is valid, or no
      snapshot is given. -/
  bare_iff : second.config.IsBare →
    (SameBuilds tree configPath place request first second ↔
      request.symbols = [] ∨ first.config.fault? = none)
  /-- Without a snapshot the build ends before the configuration is read. -/
  idle : request.symbols = [] → generateWith tree configPath place request first =
    (.error .noSnapshots, { tree := tree.withConfig place first })
  /-- A configuration that is not valid ends the build before anything is done. -/
  faulty : request.symbols ≠ [] → ∀ failure, first.config.fault? = some failure →
    generateWith tree configPath place request first =
      (.error failure, { tree := tree.withConfig place first })

/-- A command line that gives all values overrides a configuration that is valid without it: of two
    configurations that differ only in those values each leads to the same. One that is not valid
    fails for what is wrong with it, whatever the command line gives instead, unless there is no
    snapshot to begin with. A path of a snapshot may lead to the configuration; the two texts are
    then to be read alike as snapshots. -/
theorem overrideLaw_of_complete {tree : FileTree} {configPath held : String} {place : Place}
    {request : GenerateRequest} {first second : ConfigFile}
    (located : tree.locate configPath = .ok place) (stands : tree.node? place = some (.file held))
    (complete : request.Complete) (alike : first.config.SameBeyondFlags second.config)
    (apart : (∃ path ∈ request.symbols, FileTree.MayLead path place) →
      Snapshot.parse first.text = Snapshot.parse second.text) :
    OverrideLaw tree configPath place request first second := by
  have same_iff : SameBuilds tree configPath place request first second ↔
      request.symbols = [] ∨ first.config.fault? = second.config.fault? := by
    by_cases idle : request.symbols = []
    · refine iff_of_true ?_ (Or.inl idle)
      unfold SameBuilds
      rw [generateWith_of_nil idle, generateWith_of_nil idle]
      exact ⟨.error _, rfl, FileTree.Twins.of_put _ _ _ _⟩
    · rw [or_iff_right idle]
      refine ⟨fault?_eq_of_same located stands idle complete, fun equal => ?_⟩
      cases fault : first.config.fault? with
      | none =>
          exact sameBuilds_of_valid located stands idle complete alike apart fault (equal ▸ fault)
      | some failure =>
          unfold SameBuilds
          rw [generateWith_of_fault located stands idle fault,
            generateWith_of_fault located stands idle (equal ▸ fault)]
          exact ⟨.error failure, rfl, FileTree.Twins.of_put _ _ _ _⟩
  constructor
  case same_iff => exact same_iff
  case bare_iff =>
    intro bare
    rw [same_iff, bare.fault?_eq_none]
  case idle => exact generateWith_of_nil
  case faulty => exact fun given _ => generateWith_of_fault located stands given

section Backends

private def namesSwift : ConfigFile where
  text := "[output]\nbackend = \"swift\"\n"
  config := { language := "swift" }
  parsed := by decide +kernel

private def namesJava : ConfigFile where
  text := "[output]\nbackend = \"java\"\n"
  config := { language := "java" }
  parsed := by decide +kernel

private def module : FileTree :=
  ⟨.ofList [("a.json", .file "\x7b\"declarations\":[]\x7d"), ("arouter.toml", .file "")]⟩

/-- A command line that asks for Java. -/
private def forJava : GenerateRequest where
  symbols := ["a.json"]
  directory := some "out"
  moduleName := some "app"
  language := some "java"
  docsDirectory := some "docs"

private theorem complete_forJava : forJava.Complete where
  directory := ⟨"out", rfl, rfl⟩
  language := ⟨"java", .java, rfl, by decide⟩
  moduleName := ⟨"app", rfl, by decide⟩
  docsDirectory := ⟨"docs", rfl⟩

private theorem locate_configName (tree : FileTree) :
    tree.locate "arouter.toml" = .ok ["arouter.toml"] := by
  apply FileTree.locate_name
  · rw [FileTree.checkPath, if_neg (by decide), if_neg (by decide), if_neg (by decide)]
  all_goals decide +kernel

private theorem locate_symbols (tree : FileTree) : tree.locate "a.json" = .ok ["a.json"] := by
  apply FileTree.locate_name
  · rw [FileTree.checkPath, if_neg (by decide), if_neg (by decide), if_neg (by decide)]
  all_goals decide +kernel

private theorem stands_module : module.node? ["arouter.toml"] = some (.file "") := by
  decide +kernel

private theorem alike_namesSwift : namesSwift.config.SameBeyondFlags namesJava.config :=
  fun _ _ => rfl

private theorem apart_forJava :
    ¬∃ path ∈ forJava.symbols, FileTree.MayLead path ["arouter.toml"] := by
  rintro ⟨path, known, tree, reached, located, same⟩
  obtain rfl := List.mem_singleton.mp known
  rw [locate_symbols] at located
  cases located
  exact absurd same (by decide)

/-- Two configurations with a language each, and a command line that asks for one of them. -/
theorem overrideLaw_of_forJava :
    module.locate "arouter.toml" = .ok ["arouter.toml"] ∧
      module.node? ["arouter.toml"] = some (.file "") ∧ forJava.Complete ∧
      namesSwift.config.SameBeyondFlags namesJava.config ∧
      (¬∃ path ∈ forJava.symbols, FileTree.MayLead path ["arouter.toml"]) ∧
      OverrideLaw module "arouter.toml" ["arouter.toml"] forJava namesSwift namesJava :=
  ⟨locate_configName module, stands_module, complete_forJava, alike_namesSwift, apart_forJava,
    overrideLaw_of_complete (locate_configName module) stands_module complete_forJava
      alike_namesSwift (absurd · apart_forJava)⟩

/-- The language of a configuration ends the build, where the command line gives another one. -/
theorem forJava_stopped :
    generateWith module "arouter.toml" ["arouter.toml"] forJava namesSwift =
        (.error (.unknownLanguage "swift"),
          { tree := module.withConfig ["arouter.toml"] namesSwift }) ∧
      ¬∀ (tree : FileTree) (configPath held : String) (place : Place) (request : GenerateRequest)
        (first second : ConfigFile), tree.locate configPath = .ok place →
          tree.node? place = some (.file held) → request.Complete →
          first.config.SameBeyondFlags second.config →
          (¬∃ path ∈ request.symbols, FileTree.MayLead path place) →
          SameBuilds tree configPath place request first second := by
  have located := locate_configName module
  have given : forJava.symbols ≠ [] := by decide
  refine ⟨generateWith_of_fault located stands_module given (by decide), fun overrides => ?_⟩
  have same := overrides module "arouter.toml" "" _ forJava namesSwift namesJava located
    stands_module complete_forJava alike_namesSwift apart_forJava
  exact absurd (fault?_eq_of_same located stands_module given complete_forJava same) (by decide)

end Backends

end RouteAtlas
