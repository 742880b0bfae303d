import RouteAtlas.Host.Generate
import RouteAtlas.Proofs.Delivery.Library
import RouteAtlas.Proofs.Round.Found

/-! # What is put off

A class that carries an annotation and mentions types that are not known yet is put off, and offered
again in every later round until another version of it is delivered. After the last round the
classes put off are those whose latest versions are still annotated and unresolved.
-/

namespace RouteAtlas

/-- Whether a round puts a class off. -/
def Declaration.isPutOff (decl : Declaration) : Bool :=
  decl.isMarked && !decl.resolved

theorem Declaration.isPutOff_iff {decl : Declaration} :
    decl.isPutOff = true ↔ decl.isMarked = true ∧ decl.resolved = false := by
  simp [isPutOff]

theorem SymbolTable.resolve_filter (table : SymbolTable) (keep : Declaration → Bool)
    (name : String) :
    (ofList (table.declarations.filter keep)).resolve name = (table.resolve name).filter keep := by
  have listed : (ofList (table.declarations.filter keep)).declarations = _ :=
    declarations_ofList (table.distinct_filter keep)
  cases found : (table.resolve name).filter keep with
  | some decl =>
      obtain ⟨here, kept⟩ := Option.filter_eq_some_iff.mp found
      rw [← name_of_resolve here]
      apply resolve_of_mem
      rw [listed]
      exact List.mem_filter.mpr ⟨mem_of_resolve here, kept⟩
  | none =>
      rw [resolve_ofList_eq_none_iff]
      intro known
      obtain ⟨decl, member, rfl⟩ := List.mem_map.mp known
      obtain ⟨inTable, kept⟩ := List.mem_filter.mp member
      rw [resolve_of_mem inTable, Option.filter_some, if_pos kept] at found
      cases found

theorem SymbolTable.exists_mem_iff (table : SymbolTable) (keep : Declaration → Bool)
    (name : String) :
    (∃ decl ∈ table.declarations, keep decl = true ∧ decl.qualifiedName = name) ↔
      ∃ decl, (table.resolve name).filter keep = some decl := by
  simp only [Option.filter_eq_some_iff]
  constructor
  · rintro ⟨decl, member, kept, rfl⟩
    exact ⟨decl, resolve_of_mem member, kept⟩
  · rintro ⟨decl, found, kept⟩
    exact ⟨decl, mem_of_resolve found, kept, name_of_resolve found⟩

namespace Carry

/-- What a round needs to know of the earlier ones: the library has no annotations, and the classes
    put off are those whose latest versions are to be put off. -/
structure Awaits (carry : Carry) (earlier : List (List Declaration)) : Prop where
  library : ∀ decl ∈ carry.library, decl.isMarked = false
  deferred : ∀ name, (SymbolTable.ofList carry.deferred).resolve name =
    (latestVersion? name earlier).filter Declaration.isPutOff

namespace Awaits

theorem start : Awaits {} [] where
  library := by simp
  deferred := fun _ => rfl

variable {carry : Carry} {earlier : List (List Declaration)} (awaits : Awaits carry earlier)
include awaits

/-- A class is put off in its latest version: a version in the library has no annotations, and one
    that was put off gives way to a version of the round. -/
theorem resolve_table (delivered : List Declaration) (name : String) :
    ((carry.table delivered).resolve name).filter Declaration.isPutOff =
      (latestVersion? name (earlier ++ [delivered])).filter Declaration.isPutOff := by
  have plain : ((SymbolTable.ofList carry.library).resolve name).filter Declaration.isPutOff =
      none := by
    rw [Option.filter_eq_none_iff]
    intro decl found
    simp [Declaration.isPutOff, awaits.library decl (SymbolTable.mem_of_resolve_ofList found)]
  rw [table, SymbolTable.resolve_extend, SymbolTable.resolve_extend, awaits.deferred,
    latestVersion?_concat]
  cases (SymbolTable.ofList delivered).resolve name with
  | some decl => rfl
  | none =>
      rw [Option.none_or, Option.none_or]
      cases late : (latestVersion? name earlier).filter Declaration.isPutOff with
      | none => rw [Option.none_or, plain]
      | some decl =>
          obtain ⟨-, putOff⟩ := Option.filter_eq_some_iff.mp late
          rw [Option.some_or, Option.filter_some, if_pos putOff]

/-- A round that puts off the classes it has to leaves the next one what it needs to know. -/
theorem advance {delivered : List Declaration} {deferred : List String}
    (exact : ∀ name, name ∈ deferred ↔ ∃ decl ∈ (carry.table delivered).declarations,
      decl.isPutOff = true ∧ decl.qualifiedName = name) :
    Awaits (carry.advance (carry.table delivered) deferred) (earlier ++ [delivered]) where
  library := by
    intro decl member
    rcases List.mem_append.mp member with old | joining
    · exact awaits.library decl old
    · have plain := (List.mem_filter.mp joining).2
      rw [Bool.and_eq_true, Bool.not_eq_true'] at plain
      exact plain.1
  deferred := by
    intro name
    -- Names in a table are distinct, so a name that is put off is that of one class only.
    have kept : ∀ decl ∈ (carry.table delivered).declarations,
        deferred.contains decl.qualifiedName = decl.isPutOff := by
      intro decl member
      rw [Bool.eq_iff_iff, List.contains_iff_mem, exact]
      constructor
      · rintro ⟨twin, twinIn, putOff, named⟩
        rwa [← List.inj_on_of_nodup_map (carry.table delivered).distinct twinIn member named]
      · exact fun putOff => ⟨decl, member, putOff, rfl⟩
    rw [← awaits.resolve_table, ← SymbolTable.resolve_filter]
    exact congrArg (fun decls => (SymbolTable.ofList decls).resolve name)
      (List.filter_congr kept)

end Awaits

end Carry

/-- A list of names is that of all names with a property, ascending and without repeats. -/
structure Enumerates (names : List String) (property : String → Prop) : Prop where
  ascending : names.Pairwise (· < ·)
  mem : ∀ name, name ∈ names ↔ property name

theorem enumerates_deferred {σ : Type} (pipeline : Pipeline) (sink : Sink σ) (build : BuildState)
    (table : SymbolTable) (state : σ) :
    Enumerates (pipeline.runRound sink build table state).1.deferred fun name =>
      ∃ decl ∈ table.declarations, decl.isPutOff = true ∧ decl.qualifiedName = name where
  ascending := SortedMap.keys_ascending _
  mem := by
    intro name
    rw [Pipeline.mem_deferred]
    simp only [Declaration.isPutOff_iff, and_assoc, and_left_comm]

namespace Work

variable {α β : Type} (next : α → Work β) (desk : Desk)

theorem run_bind (first : Work α) :
    (first >>= next).run.run desk =
      match first.run.run desk with
      | (.ok value, after) => (next value).run.run after
      | (.error failure, after) => (.error failure, after) := by
  rw [ExceptT.run_bind, StateT.run_bind]
  cases first.run.run desk with
  | mk result after => cases result <;> rfl

theorem run_ok_bind (value : α) :
    ((Except.ok value : Except Failure α) >>= next : Work β).run.run desk =
      (next value).run.run desk := rfl

/-- Printing does not fail, whatever the lines are. -/
theorem run_lines (texts : List String) (desk : Desk) :
    ∃ after, (lines texts).run.run desk = (.ok (), after) := by
  induction texts generalizing desk with
  | nil => exact ⟨desk, rfl⟩
  | cons text rest ih =>
      obtain ⟨after, ran⟩ := ih { desk with printed := desk.printed ++ text ++ "\n" }
      exact ⟨after, by rw [← ran]; rfl⟩

end Work

namespace Progress

/-- The progress of a build over several snapshots, with a round for each. -/
def deliverAll (plan : BuildPlan) (progress : Progress) (deliveries : List (List Declaration)) :
    Progress :=
  deliveries.foldl (fun progress delivered => (progress.deliver plan delivered).2) progress

/-- The snapshots in files, which are read between the rounds that they are for. -/
def snapshots (plan : BuildPlan) (progress : Progress) :
    List String → Except Failure (List (List Declaration))
  | [] => .ok []
  | path :: rest =>
    match progress.tree.loadSymbols path with
    | .error failure => .error failure
    | .ok snapshot =>
      ((progress.deliver plan snapshot.declarations).2.snapshots plan rest).map
        (snapshot.declarations :: ·)

variable {plan : BuildPlan} {progress : Progress} {delivered : List Declaration}

theorem carry_writeDocuments (outcome : RoundOutcome) :
    (progress.writeDocuments plan outcome).2.session.carry = progress.session.carry := by
  unfold writeDocuments writeDocument
  split
  · dsimp only
    split <;> rfl
  · rfl

theorem deferred_writeDocuments (outcome : RoundOutcome) :
    (progress.writeDocuments plan outcome).2.tally.deferred = progress.tally.deferred := by
  unfold writeDocuments writeDocument
  split
  · dsimp only
    split <;> rfl
  · rfl

theorem carry_deliver :
    (progress.deliver plan delivered).2.session.carry =
      (plan.pipeline.deliver plan.sink progress.session delivered).2.carry :=
  carry_writeDocuments _

theorem deferred_deliver :
    (progress.deliver plan delivered).2.tally.deferred =
      (plan.pipeline.deliver plan.sink progress.session delivered).1.deferred := rfl

theorem deferred_conclude :
    (progress.conclude plan).2.tally.deferred = progress.tally.deferred :=
  deferred_writeDocuments _

theorem awaits_deliverAll {earlier : List (List Declaration)}
    (awaits : progress.session.carry.Awaits earlier) (deliveries : List (List Declaration)) :
    (progress.deliverAll plan deliveries).session.carry.Awaits (earlier ++ deliveries) := by
  induction deliveries generalizing progress earlier with
  | nil => rwa [List.append_nil]
  | cons delivered rest ih =>
      rw [← List.singleton_append, ← List.append_assoc]
      apply ih
      rw [carry_deliver]
      exact awaits.advance (enumerates_deferred ..).mem

section

variable {path : String} {snapshot : Snapshot}
  (loaded : progress.tree.loadSymbols path = .ok snapshot)
include loaded

theorem map_snapshots_cons (rest : List String) :
    (progress.snapshots plan (path :: rest)).map (progress.deliverAll plan) =
      let next := (progress.deliver plan snapshot.declarations).2
      (next.snapshots plan rest).map (next.deliverAll plan) := by
  rw [snapshots, loaded]
  dsimp only
  cases (progress.deliver plan snapshot.declarations).2.snapshots plan rest with
  | error failure => rfl
  | ok later => rfl

theorem run_runRounds_cons (number : Nat) (rest : List String) (desk : Desk) :
    ∃ after, (runRounds plan number progress (path :: rest)).run.run desk =
      (runRounds plan (number + 1) (progress.deliver plan snapshot.declarations).2 rest).run.run
        after := by
  rw [runRounds, loaded, Work.run_ok_bind, Work.run_bind]
  rcases progress.deliver plan snapshot.declarations with ⟨printed, next⟩
  obtain ⟨after, ran⟩ := Work.run_lines printed ⟨next.tree, _⟩
  refine ⟨after, ?_⟩
  change (Work.lines printed >>= fun _ => _).run.run _ = _
  rw [Work.run_bind, ran]

end

/-- The rounds over files are those over the snapshots in them. -/
theorem run_runRounds (paths : List String) (number : Nat) (desk : Desk) :
    ((runRounds plan number progress paths).run.run desk).1 =
      (progress.snapshots plan paths).map (progress.deliverAll plan) := by
  induction paths generalizing number progress desk with
  | nil => rfl
  | cons path rest ih =>
      cases loaded : progress.tree.loadSymbols path with
      | error failure =>
          rw [runRounds, snapshots, loaded]
          rfl
      | ok snapshot =>
          obtain ⟨after, ran⟩ := run_runRounds_cons loaded number rest desk
          rw [ran, ih, map_snapshots_cons loaded]

/-- No annotated class is lost between the rounds of a build. Whatever a round comes to, it puts off
    the classes of its table that are annotated and unresolved, and at the end of the build those
    are still put off whose latest versions are. -/
theorem putOff_of_delivered (plan : BuildPlan) (tree : FileTree)
    (earlier : List (List Declaration)) (delivered : List Declaration) :
    let before := (start tree).deliverAll plan earlier
    let outcome := (plan.pipeline.deliver plan.sink before.session delivered).1
    let last := (start tree).deliverAll plan (earlier ++ [delivered])
    (Enumerates outcome.deferred fun name =>
      ∃ decl ∈ (before.session.carry.table delivered).declarations,
        decl.isPutOff = true ∧ decl.qualifiedName = name) ∧
    last.tally.deferred = outcome.deferred ∧
    (Enumerates (last.conclude plan).2.tally.deferred fun name =>
      ∃ decl, latestVersion? name (earlier ++ [delivered]) = some decl ∧ decl.isPutOff = true) ∧
    ∀ paths number desk, ((runRounds plan number (start tree) paths).run.run desk).1 =
      ((start tree).snapshots plan paths).map ((start tree).deliverAll plan) := by
  intro before outcome last
  have exact : Enumerates outcome.deferred fun name =>
      ∃ decl ∈ (before.session.carry.table delivered).declarations,
        decl.isPutOff = true ∧ decl.qualifiedName = name :=
    enumerates_deferred ..
  have same : last.tally.deferred = outcome.deferred := by
    unfold last deliverAll
    rw [List.foldl_concat]
    exact deferred_deliver
  have fresh : (start tree).session.carry.Awaits [] := Carry.Awaits.start
  have awaits : before.session.carry.Awaits earlier := awaits_deliverAll fresh earlier
  refine ⟨exact, same, ?_, fun paths number desk => run_runRounds paths number desk⟩
  rw [deferred_conclude, same]
  refine ⟨exact.ascending, fun name => ?_⟩
  rw [exact.mem, SymbolTable.exists_mem_iff, awaits.resolve_table]
  simp only [Option.filter_eq_some_iff]

end Progress

end RouteAtlas
