import RouteAtlas.Proofs.Diagnostic
import RouteAtlas.Proofs.Round.Found
import RouteAtlas.Proofs.Round.Siblings
import RouteAtlas.Proofs.Route.Clashes

/-! # Accounts of a round

Nothing is left out of a round in silence. What is dropped on the way, what ends the work of a
processor and what cannot be written is said with the name of its declaration or unit, and the log
has no errors but for such reasons.
-/

namespace RouteAtlas

/-- A log has an error about a name. -/
def Diagnostics.Blames (log : Diagnostics) (name : String) : Prop :=
  ∃ error : BuildError, ⟨.error, error.message, some name⟩ ∈ log

theorem Diagnostics.Blames.mono {log other : Diagnostics} {name : String}
    (blames : log.Blames name) (within : log ⊆ other) : other.Blames name :=
  blames.imp fun _ said => within said

/-- What is said of a declaration that is left out. -/
def Declaration.blame {α : Type} (decl : Declaration) : Except BuildError α → Diagnostics
  | .ok _ => []
  | .error error => [⟨.error, error.message, some decl.qualifiedName⟩]

theorem Declaration.errors_report {α : Type} (decl : Declaration) (error : BuildError) :
    (Diagnostics.report error decl.qualifiedName).withSeverity .error =
      decl.blame (.error error : Except BuildError α) := by
  rw [Diagnostics.report_eq]
  rfl

/-- What is said of the units that failed. -/
def EmitReport.blame (report : EmitReport) : Diagnostics :=
  report.failed.map fun entry => ⟨.error, entry.2.message, some entry.1.qualifiedName⟩

/-- What is said of the error that ended the work, if there is one. -/
def Report.blame (report : Report) : Diagnostics :=
  (report.fatal.map failureLog).getD []

section Parts

variable {σ : Type}

theorem errors_failureLog (error : BuildError) :
    (failureLog error).withSeverity .error = failureLog error := by
  have said : (Diagnostics.report error none).withSeverity .error =
      Diagnostics.report error none := Diagnostics.withSeverity_entry ..
  rw [failureLog, Diagnostics.withSeverity_append, said]
  split
  · rw [Diagnostics.errors_error]
  · rfl

theorem mem_failureLog (error : BuildError) : ⟨.error, error.message, none⟩ ∈ failureLog error := by
  simp [failureLog, Diagnostics.report_eq]

/-- The errors of an emission are those of the units that failed. -/
theorem Language.errors_emit (language : Language) (sink : Sink σ) (state : σ)
    (units : List GeneratedUnit) :
    (language.emit sink state units).log.withSeverity .error =
      (language.emit sink state units).report.blame := by
  induction units generalizing state with
  | nil => rfl
  | cons unit rest ih =>
      have here : (unit.log (language.emitUnit sink state unit).1).withSeverity .error =
          (EmitReport.ofResult unit.key (language.emitUnit sink state unit).1).blame := by
        rcases (language.emitUnit sink state unit).1 with error | (_ | _)
        · rw [GeneratedUnit.log, Diagnostics.report_eq]
          rfl
        · exact Diagnostics.errors_info _
        · rfl
      have apart : (language.emit sink state (unit :: rest)).report.blame =
          (EmitReport.ofResult unit.key (language.emitUnit sink state unit).1).blame ++
            (language.emit sink (language.emitUnit sink state unit).2 rest).report.blame :=
        List.map_append
      rw [apart, ← here, ← ih]
      exact Diagnostics.withSeverity_append ..

end Parts

/-- What a processor reports and says, where it came to certain declarations and judged each of
    them. -/
structure Accounted {α : Type} (verdict : Declaration → Except BuildError α)
    (reached : List Declaration) (report : Report) (log : Diagnostics) : Prop where
  errors : log.withSeverity .error =
    (reached.flatMap fun decl => decl.blame (verdict decl)) ++ report.blame ++ report.emitted.blame
  dropped : (reached.countP fun decl => (verdict decl).toOption.isNone) ≤ report.dropped

namespace Accounted

variable {α : Type} {verdict : Declaration → Except BuildError α} {reached : List Declaration}
  {report : Report} {log : Diagnostics} (accounted : Accounted verdict reached report log)
include accounted

theorem mem_log {entry : Diagnostic}
    (member : entry ∈ (reached.flatMap fun decl => decl.blame (verdict decl)) ++ report.blame ++
      report.emitted.blame) : entry ∈ log := by
  rw [← accounted.errors] at member
  exact Diagnostics.mem_of_mem_withSeverity member

theorem blames {decl : Declaration} (member : decl ∈ reached) {error : BuildError}
    (refused : verdict decl = .error error) : log.Blames decl.qualifiedName := by
  refine ⟨error, accounted.mem_log (List.mem_append_left _ (List.mem_append_left _ ?_))⟩
  exact List.mem_flatMap.mpr ⟨decl, member, by rw [refused]; exact List.mem_singleton_self _⟩

theorem fatal {error : BuildError} (ended : report.fatal = some error) :
    ⟨.error, error.message, none⟩ ∈ log := by
  refine accounted.mem_log (List.mem_append_left _ (List.mem_append_right _ ?_))
  rw [Report.blame, ended]
  exact mem_failureLog error

theorem failed {key : UnitKey} {error : BuildError}
    (member : (key, error) ∈ report.emitted.failed) :
    ⟨.error, error.message, some key.qualifiedName⟩ ∈ log :=
  accounted.mem_log (List.mem_append_right _ (List.mem_map.mpr ⟨_, member, rfl⟩))

/-- An error has its reason in the report. -/
theorem loud (errors : log.hasErrors = true) :
    0 < report.dropped ∨ report.emitted.failed ≠ [] ∨ report.fatal.isSome = true := by
  rw [Diagnostics.hasErrors_iff, accounted.errors] at errors
  by_contra quiet
  push Not at quiet
  obtain ⟨dropped, failed, fatal⟩ := quiet
  refine errors ?_
  -- Nothing was dropped, so whatever was come to has passed.
  have judged : (reached.flatMap fun decl => decl.blame (verdict decl)) = [] := by
    refine List.flatMap_eq_nil_iff.mpr fun decl member => ?_
    have none := accounted.dropped.trans dropped
    have passed := List.countP_eq_zero.mp (Nat.le_zero.mp none) decl member
    cases made : verdict decl with
    | ok => rfl
    | error => simp [made, Except.toOption] at passed
  have sound : report.fatal = none := by simpa using fatal
  rw [judged, Report.blame, sound, EmitReport.blame, failed]
  rfl

end Accounted

namespace RouteTable

/-- What comes of inserting records one after another, record by record. -/
def insertions : RouteTable → List RouteRecord → List Insertion
  | _, [] => []
  | table, record :: rest => table.insert record :: insertions (table.insert record).table rest

section Insert

variable {records : List RouteRecord} {record : RouteRecord} {error : BuildError}

theorem accepted_insert (table : RouteTable) (record : RouteRecord) :
    (table.insert record).accepted = record.validate.toOption.isSome := by
  unfold insert
  cases record.validate <;> rfl

theorem length_insertions (table : RouteTable) (records : List RouteRecord) :
    (table.insertions records).length = records.length := by
  induction records generalizing table with
  | nil => rfl
  | cons record rest ih => exact congrArg (· + 1) (ih _)

/-- Whether a record is accepted depends on the record alone. -/
theorem countP_insertions (table : RouteTable) (records : List RouteRecord) :
    (table.insertions records).countP (fun next => !next.accepted) =
      records.countP fun record => record.validate.toOption.isNone := by
  induction records generalizing table with
  | nil => rfl
  | cons record rest ih =>
      rw [insertions, List.countP_cons, List.countP_cons, ih, accepted_insert, Option.not_isSome]

private theorem refused_foldl (batch : Batch) (records : List RouteRecord) :
    (records.foldl Batch.insert batch).refused =
      batch.refused + (batch.table.insertions records).countP fun next => !next.accepted := by
  induction records generalizing batch with
  | nil => rfl
  | cons record rest ih =>
      rw [List.foldl_cons, ih, insertions, List.countP_cons, Batch.insert]
      cases (batch.table.insert record).accepted
      · exact Nat.add_right_comm ..
      · rfl

theorem refused_insertAll (table : RouteTable) (records : List RouteRecord) :
    (table.insertAll records).refused =
      (table.insertions records).countP fun next => !next.accepted := by
  rw [insertAll, refused_foldl, Nat.zero_add]

/-- An invalid record is told with the name of its class. -/
theorem mentions_of_validate (refused : record.validate = .error error) :
    Text.contains error.message record.target.name = true := by
  have mentioned (first second : String) :
      Text.contains (first ++ record.target.name ++ second) record.target.name = true :=
    Text.contains_append_left (Text.contains_append_right first (Text.contains_self _)) second
  unfold RouteRecord.validate at refused
  split at refused
  · cases refused
    exact mentioned _ _
  · split at refused
    · cases refused
      exact mentioned _ _
    · split at refused
      · cases refused
      · cases refused
        exact mentioned _ _

theorem warned_of_refused (table : RouteTable) (member : record ∈ records)
    (refused : record.validate = .error error) :
    (table.insertAll records).log.holds .warn record.target.name = true := by
  obtain ⟨before, after, rfl⟩ := List.append_of_mem member
  have said : ⟨.warn, progress ("Route meta verify error, " ++ error.message), none⟩ ∈
      (table.insertAll (before ++ record :: after)).log := by
    rw [← List.singleton_append, log_insertAll_append, log_insertAll_append]
    refine List.mem_append_right _ (List.mem_append_left _ ?_)
    have alone : ∀ start : RouteTable, (start.insertAll [record]).log = (start.insert record).log :=
      fun _ => List.nil_append _
    rw [alone, log_insert, refused]
    simp [Diagnostics.warn, Diagnostics.entry, progress]
  refine Diagnostics.holds_iff.mpr ⟨_, said, rfl, ?_⟩
  exact Text.contains_append_left
    (Text.contains_append_right _ (Text.contains_append_right _ (mentions_of_validate refused))) _

/-- Insertions warn, but they give no errors. -/
theorem errors_insertAll (table : RouteTable) (records : List RouteRecord) :
    (table.insertAll records).log.withSeverity .error = [] := by
  induction records using List.reverseRecOn with
  | nil => rfl
  | append_singleton records raw ih =>
      rw [log_insertAll_concat, Diagnostics.withSeverity_append, ih, List.nil_append, log_insert]
      cases raw.validate with
      | error error => exact Diagnostics.errors_warn _
      | ok valid =>
          rw [Diagnostics.withSeverity_append, Diagnostics.errors_info, List.nil_append, clash]
          split
          · rfl
          · split
            · rfl
            · exact Diagnostics.withSeverity_entry ..

end Insert

end RouteTable

namespace SymbolTable

variable {table : SymbolTable} {decls : List Declaration}

theorem errors_extractRoutes (table : SymbolTable) (decls : List Declaration) :
    (table.extractRoutes decls).log.withSeverity .error =
      decls.flatMap fun decl => decl.blame (table.extractRoute decl) := by
  have single (decl : Declaration) : (table.extractionLog decl).withSeverity .error =
      decl.blame (table.extractRoute decl) := by
    unfold extractionLog
    cases table.extractRoute decl with
    | ok record => exact Diagnostics.errors_info _
    | error error => exact decl.errors_report error
  simp only [extractRoutes, Diagnostics.withSeverity_flatMap, single]

/-- A class is dropped if it is no route, or if its route is invalid. -/
theorem countP_acceptedRoute? (table : SymbolTable) (decls : List Declaration) :
    (decls.countP fun decl => (table.acceptedRoute? decl).isNone) =
      (table.extractRoutes decls).failed + (table.extractRoutes decls).records.countP fun record =>
        record.validate.toOption.isNone := by
  simp only [extractRoutes, List.countP_filterMap]
  induction decls with
  | nil => rfl
  | cons decl rest ih =>
      rw [List.countP_cons, List.countP_cons, List.countP_cons, ih, acceptedRoute?]
      cases (table.extractRoute decl).toOption with
      | none => exact Nat.add_right_comm ..
      | some record => exact Nat.add_assoc ..

theorem length_extractRoutes (table : SymbolTable) (decls : List Declaration) :
    (table.extractRoutes decls).failed + (table.extractRoutes decls).records.length =
      decls.length := by
  simp only [extractRoutes, List.length_filterMap_eq_countP]
  rw [List.length_eq_countP_add_countP fun decl => (table.extractRoute decl).toOption.isNone]
  congr 1
  refine List.countP_congr fun decl _ => ?_
  cases (table.extractRoute decl).toOption <;> simp

/-- The interceptors that are come to when they are inserted one after another. -/
def reachedHooks (table : SymbolTable) (staged : HookTable) : List Declaration → List Declaration
  | [] => []
  | decl :: rest =>
    match table.hookOf decl with
    | .error _ => decl :: table.reachedHooks staged rest
    | .ok hook =>
      match staged.insert hook with
      | .error _ => [decl]
      | .ok after => decl :: table.reachedHooks after rest

/-- An interceptor is come to unless two of those before it clash. -/
theorem mem_reachedHooks {staged : HookTable} {before after : List Declaration} {decl : Declaration}
    (sound : (table.takeHooks staged before).fatal = none) :
    decl ∈ table.reachedHooks staged (before ++ decl :: after) := by
  induction before generalizing staged with
  | nil =>
      rw [List.nil_append, reachedHooks]
      split
      · exact List.mem_cons_self
      · split <;> exact List.mem_cons_self
  | cons first rest ih =>
      rw [List.cons_append, reachedHooks]
      rw [takeHooks] at sound
      cases made : table.hookOf first with
      | error error =>
          rw [made] at sound
          exact List.mem_cons_of_mem _ (ih sound)
      | ok hook =>
          simp only [made] at sound ⊢
          cases inserted : staged.insert hook with
          | error error => simp [inserted] at sound
          | ok next =>
              rw [inserted] at sound
              exact List.mem_cons_of_mem _ (ih sound)

/-- What is said when interceptors are inserted, and how many of them are dropped. -/
theorem errors_takeHooks (staged : HookTable) (decls : List Declaration) :
    (table.takeHooks staged decls).log.withSeverity .error =
        (table.reachedHooks staged decls).flatMap (fun decl => decl.blame (table.hookOf decl)) ++
          ((table.takeHooks staged decls).fatal.map failureLog).getD [] ∧
      (table.takeHooks staged decls).dropped =
        (table.reachedHooks staged decls).countP fun decl =>
          (table.hookOf decl).toOption.isNone := by
  induction decls generalizing staged with
  | nil => exact ⟨rfl, rfl⟩
  | cons decl rest ih =>
      rw [takeHooks, reachedHooks]
      cases made : table.hookOf decl with
      | error error =>
          obtain ⟨errors, dropped⟩ := ih staged
          simp only [List.flatMap_cons, List.countP_cons, made, Diagnostics.withSeverity_append,
            errors, dropped, List.append_assoc]
          exact ⟨congrArg (· ++ _) (decl.errors_report error), rfl⟩
      | ok hook =>
          cases inserted : staged.insert hook with
          | error error =>
              simp only [inserted, List.flatMap_cons, List.countP_cons, made, errors_failureLog]
              exact ⟨rfl, rfl⟩
          | ok next =>
              obtain ⟨errors, dropped⟩ := ih next
              simp only [inserted, List.flatMap_cons, List.countP_cons, made, errors, dropped,
                Diagnostics.withSeverity_append, Diagnostics.errors_info]
              exact ⟨rfl, rfl⟩

theorem errors_injectorLog (table : SymbolTable) (decls : List Declaration) :
    Diagnostics.withSeverity (decls.flatMap table.injectorLog) .error =
      decls.flatMap fun decl => decl.blame (table.injectorOf decl) := by
  have single (decl : Declaration) : (table.injectorLog decl).withSeverity .error =
      decl.blame (table.injectorOf decl) := by
    rw [injectorLog, Diagnostics.withSeverity_append, Diagnostics.errors_info, List.nil_append]
    cases table.injectorOf decl with
    | ok plan => rfl
    | error error => exact decl.errors_report error
  simp only [Diagnostics.withSeverity_flatMap, single]

end SymbolTable

namespace Pipeline

variable {σ : Type} {pipeline : Pipeline} {sink : Sink σ} {table : SymbolTable} {state : σ}

theorem accounted_runRoutes (routes : RouteTable) :
    Accounted table.extractRoute (resolvedOnes table.routes)
      (pipeline.runRoutes sink table routes state).report
      (pipeline.runRoutes sink table routes state).log where
  errors := by
    rw [(runRoutes_offer routes).2, ← Language.errors_emit, ← SymbolTable.errors_extractRoutes,
      Report.blame, fatal_runRoutes]
    simp only [runRoutes, writeRoutes, routeOffer, BuildOptions.requireModuleName]
    cases found : (resolvedOnes table.routes).isEmpty with
    | true =>
        rw [List.isEmpty_iff.mp found]
        rfl
    | false =>
        cases (pendingOnes table.routes).isEmpty with
        | false => simp [RouteTable.errors_insertAll, Language.emit_nil]
        | true =>
            cases pipeline.options.moduleName with
            | none => simp [RouteTable.errors_insertAll, Language.emit_nil, errors_failureLog]
            | some module =>
                simp only [Bool.false_eq_true, if_false, if_true]
                split <;> simp [RouteTable.errors_insertAll, SymbolTable.stagedRoutes]
  dropped := by
    rw [report_runRoutes]
    exact Nat.le_add_right ..

theorem accounted_runHooks (hooks : HookTable) :
    Accounted table.hookOf
      (if pipeline.options.moduleName.isSome
        then table.reachedHooks hooks (resolvedOnes table.hooks) else [])
      (pipeline.runHooks sink table hooks state).report
      (pipeline.runHooks sink table hooks state).log where
  errors := by
    rw [(runHooks_offer hooks).2, ← Language.errors_emit, Report.blame, fatal_runHooks_eq]
    simp only [runHooks, writeHooks, hookOffer, BuildOptions.requireModuleName]
    cases found : (resolvedOnes table.hooks).isEmpty with
    | true =>
        rw [List.isEmpty_iff.mp found, SymbolTable.reachedHooks, ite_self]
        rfl
    | false =>
        cases pipeline.options.moduleName with
        | none => simp [Language.emit_nil, errors_failureLog]
        | some module =>
            have errors := (table.errors_takeHooks hooks (resolvedOnes table.hooks)).1
            cases clash : (table.takeHooks hooks (resolvedOnes table.hooks)).fatal with
            | some error =>
                -- No unit is offered after a clash, which is told where the insertions end.
                rw [clash] at errors
                simp [SymbolTable.stagedHooks, clash, errors, Language.emit_nil]
            | none =>
                rw [clash] at errors
                cases (pendingOnes table.hooks).isEmpty with
                | false => simp [SymbolTable.stagedHooks, clash, errors, Language.emit_nil]
                | true =>
                    simp only [SymbolTable.stagedHooks, clash, Option.isSome_none,
                      Bool.false_eq_true, if_false, if_true]
                    split <;> simp [errors]
  dropped := by
    rw [report_runHooks]
    cases pipeline.options.moduleName with
    | none => exact Nat.le_refl 0
    | some module => exact (table.errors_takeHooks hooks (resolvedOnes table.hooks)).2.ge

/-- The classes whose injectors are made, unless a private field is the end of it. -/
theorem accounted_runInjectors :
    Accounted table.injectorOf
      (match SymbolTable.checkOwners (resolvedOnes table.owners) with
        | .error _ => []
        | .ok () => resolvedOnes table.owners)
      (pipeline.runInjectors sink table state).report
      (pipeline.runInjectors sink table state).log where
  errors := by
    rw [runInjectors_offer.2, ← Language.errors_emit, Report.blame, fatal_runInjectors]
    simp only [runInjectors, injectorOffer, SymbolTable.plans]
    cases found : (resolvedOnes table.owners).isEmpty with
    | true =>
        rw [List.isEmpty_iff.mp found]
        rfl
    | false =>
        cases SymbolTable.checkOwners (resolvedOnes table.owners) with
        | error error => simp [Language.emit_nil, errors_failureLog]
        | ok => simp [SymbolTable.errors_injectorLog]
  dropped := by
    rw [report_runInjectors]
    cases SymbolTable.checkOwners (resolvedOnes table.owners) <;> exact Nat.le_refl _

theorem log_insertAll_subset (routes : RouteTable) :
    (routes.insertAll (table.extractRoutes (resolvedOnes table.routes)).records).log ⊆
      (pipeline.runRoutes sink table routes state).log := by
  simp only [runRoutes]
  cases found : (resolvedOnes table.routes).isEmpty with
  | true =>
      rw [List.isEmpty_iff.mp found]
      exact List.nil_subset _
  | false =>
      simp only [Bool.false_eq_true, if_false]
      split <;> exact List.subset_append_of_subset_left _ (List.subset_append_right _ _)

/-- A route that is dropped on the way into a table is told, one way or the other. -/
theorem told_of_dropped (routes : RouteTable) {decl : Declaration}
    (found : decl ∈ resolvedOnes table.routes) (dropped : table.acceptedRoute? decl = none) :
    (pipeline.runRoutes sink table routes state).log.Blames decl.qualifiedName ∨
      (pipeline.runRoutes sink table routes state).log.holds .warn decl.qualifiedName = true := by
  cases made : table.extractRoute decl with
  | error error => exact .inl ((accounted_runRoutes routes).blames found made)
  | ok record =>
      right
      obtain ⟨mark, -, -, target⟩ := SymbolTable.mark_of_extractRoute made
      have member : record ∈ (table.extractRoutes (resolvedOnes table.routes)).records :=
        List.mem_filterMap.mpr ⟨decl, found, by rw [made]; rfl⟩
      cases passed : record.validate with
      | ok valid => simp [SymbolTable.acceptedRoute?, made, passed, Except.toOption] at dropped
      | error error =>
          have warned := RouteTable.warned_of_refused routes member passed
          rw [target] at warned
          exact Diagnostics.holds_of_subset (log_insertAll_subset routes) warned

/-- A class that is no interceptor is told once it is come to. -/
theorem blames_of_reached (hooks : HookTable) {decl : Declaration}
    (named : pipeline.options.moduleName.isSome = true)
    (reached : decl ∈ table.reachedHooks hooks (resolvedOnes table.hooks))
    (broken : table.implements decl Contract.interceptor = false) :
    (pipeline.runHooks sink table hooks state).log.Blames decl.qualifiedName := by
  have refused : table.hookOf decl = .error (.notAnInterceptor decl.qualifiedName) := by
    unfold SymbolTable.hookOf
    cases decl.marks.hook <;> simp [broken]
  exact (accounted_runHooks hooks).blames (by rw [if_pos named]; exact reached) refused

/-- A class is told that gets no injector. -/
theorem blames_of_lacking {owner : Declaration}
    (sound : (pipeline.runInjectors sink table state).report.fatal = none)
    (member : owner ∈ resolvedOnes table.owners)
    (lacking : (table.injectorOf owner).toOption = none) :
    (pipeline.runInjectors sink table state).log.Blames owner.qualifiedName := by
  rw [fatal_runInjectors] at sound
  cases checked : SymbolTable.checkOwners (resolvedOnes table.owners) with
  | error error => simp [checked] at sound
  | ok =>
      cases made : table.injectorOf owner with
      | ok plan => simp [made, Except.toOption] at lacking
      | error error => exact accounted_runInjectors.blames (by rw [checked]; exact member) made

section Log

variable {build : BuildState}

theorem log_runRoutes_subset : (pipeline.runRoutes sink table build.routes state).log ⊆
    (pipeline.runRound sink build table state).1.log :=
  List.subset_append_of_subset_left _ (List.subset_append_left _ _)

theorem log_runHooks_subset :
    (pipeline.runHooks sink table build.hooks
      (pipeline.runRoutes sink table build.routes state).state).log ⊆
        (pipeline.runRound sink build table state).1.log :=
  List.subset_append_of_subset_left _ (List.subset_append_right _ _)

theorem log_runInjectors_subset :
    (pipeline.runInjectors sink table (pipeline.runHooks sink table build.hooks
      (pipeline.runRoutes sink table build.routes state).state).state).log ⊆
        (pipeline.runRound sink build table state).1.log :=
  List.subset_append_right _ _

/-- The reports of a round are accounted for in parts of its log. -/
theorem exists_accounted {report : Report}
    (member : report ∈ (pipeline.runRound sink build table state).1.reports) :
    ∃ (α : Type) (verdict : Declaration → Except BuildError α) (reached : List Declaration),
      ∃ log ⊆ (pipeline.runRound sink build table state).1.log,
        Accounted verdict reached report log := by
  simp only [runRound, List.mem_cons, List.not_mem_nil, or_false] at member
  rcases member with rfl | rfl | rfl
  · exact ⟨_, _, _, _, log_runRoutes_subset, accounted_runRoutes _⟩
  · exact ⟨_, _, _, _, log_runHooks_subset, accounted_runHooks _⟩
  · exact ⟨_, _, _, _, log_runInjectors_subset, accounted_runInjectors⟩

/-- An error of a round has its reason in one of the reports. -/
theorem loud_runRound (errors : (pipeline.runRound sink build table state).1.log.hasErrors = true) :
    ∃ report ∈ (pipeline.runRound sink build table state).1.reports,
      0 < report.dropped ∨ report.emitted.failed ≠ [] ∨ report.fatal.isSome = true := by
  rw [runRound, Diagnostics.hasErrors_append_iff, Diagnostics.hasErrors_append_iff] at errors
  rcases errors with (ofRoutes | ofHooks) | ofInjectors
  · exact ⟨_, List.mem_cons_self, (accounted_runRoutes build.routes).loud ofRoutes⟩
  · exact ⟨_, List.mem_cons_of_mem _ List.mem_cons_self,
      (accounted_runHooks build.hooks).loud ofHooks⟩
  · exact ⟨_, List.mem_cons_of_mem _ (List.mem_cons_of_mem _ List.mem_cons_self),
      accounted_runInjectors.loud ofInjectors⟩

end Log

end Pipeline

/-- What the reports of a round and its log tell of each other. -/
structure AccountLaw (pipeline : Pipeline) (build : BuildState) (table : SymbolTable)
    (outcome : RoundOutcome) : Prop where
  /-- Of the routes that are found each one is accepted into the table or dropped. -/
  routes : ∃ report, outcome.reportOf? .route = some report ∧
    report.found = report.dropped +
      (build.routes.insertions (table.extractRoutes (resolvedOnes table.routes)).records).countP
        RouteTable.Insertion.accepted ∧
    report.dropped =
      (resolvedOnes table.routes).countP fun decl => (table.acceptedRoute? decl).isNone
  route : ∀ decl ∈ resolvedOnes table.routes, table.acceptedRoute? decl = none →
    outcome.log.Blames decl.qualifiedName ∨ outcome.log.holds .warn decl.qualifiedName = true
  /-- A class that is no interceptor is told unless the work ends before it is come to. -/
  hook : ∀ {before decl after}, resolvedOnes table.hooks = before ++ decl :: after →
    pipeline.options.moduleName.isSome = true → (table.takeHooks build.hooks before).fatal = none →
    table.implements decl Contract.interceptor = false → outcome.log.Blames decl.qualifiedName
  /-- A class without an injector is told unless the work ended before any was made. -/
  injector : ∀ report, outcome.reportOf? .autowired = some report → report.fatal = none →
    ∀ owner ∈ resolvedOnes table.owners, (table.injectorOf owner).toOption = none →
      outcome.log.Blames owner.qualifiedName
  fatal : ∀ report ∈ outcome.reports, ∀ error, report.fatal = some error →
    ⟨.error, error.message, none⟩ ∈ outcome.log
  failed : ∀ report ∈ outcome.reports, ∀ key error, (key, error) ∈ report.emitted.failed →
    ⟨.error, error.message, some key.qualifiedName⟩ ∈ outcome.log
  /-- There are no errors but for these reasons. -/
  loud : outcome.log.hasErrors = true → ∃ report ∈ outcome.reports,
    0 < report.dropped ∨ report.emitted.failed ≠ [] ∨ report.fatal.isSome = true

/-- Whatever is carried into a round, and whatever the table and the sink are, nothing is left out
    in silence, and nothing else is told as an error. -/
theorem accountLaw_of_round {σ : Type} (pipeline : Pipeline) (sink : Sink σ) (build : BuildState)
    (table : SymbolTable) (state : σ) :
    AccountLaw pipeline build table (pipeline.runRound sink build table state).1 := by
  constructor
  case routes =>
    refine ⟨_, Pipeline.reportOf?_route, ?_, ?_⟩
    · rw [Pipeline.report_runRoutes]
      dsimp only
      rw [← table.length_extractRoutes, RouteTable.refused_insertAll, Nat.add_assoc,
        Nat.add_left_cancel_iff, ← build.routes.length_insertions,
        List.length_eq_countP_add_countP RouteTable.Insertion.accepted, Nat.add_comm]
      simp
    · rw [Pipeline.report_runRoutes, table.countP_acceptedRoute?, RouteTable.refused_insertAll,
        RouteTable.countP_insertions]
  case route =>
    intro decl found dropped
    exact (Pipeline.told_of_dropped build.routes found dropped).imp
      (fun blames => blames.mono Pipeline.log_runRoutes_subset)
      (Diagnostics.holds_of_subset Pipeline.log_runRoutes_subset)
  case hook =>
    intro before decl after found named sound broken
    have reached : decl ∈ table.reachedHooks build.hooks (before ++ decl :: after) :=
      SymbolTable.mem_reachedHooks sound
    rw [← found] at reached
    exact (Pipeline.blames_of_reached build.hooks named reached broken).mono
      Pipeline.log_runHooks_subset
  case injector =>
    intro report known sound owner member lacking
    obtain rfl := Option.some.inj (Pipeline.reportOf?_autowired.symm.trans known)
    exact (Pipeline.blames_of_lacking sound member lacking).mono Pipeline.log_runInjectors_subset
  case fatal =>
    intro report member error ended
    obtain ⟨α, verdict, reached, log, within, accounted⟩ := Pipeline.exists_accounted member
    exact within (accounted.fatal ended)
  case failed =>
    intro report member key error failed
    obtain ⟨α, verdict, reached, log, within, accounted⟩ := Pipeline.exists_accounted member
    exact within (accounted.failed failed)
  case loud => exact Pipeline.loud_runRound

end RouteAtlas
