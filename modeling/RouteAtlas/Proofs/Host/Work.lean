import RouteAtlas.Host.Generate
import RouteAtlas.Proofs.Delivery.PutOff
import RouteAtlas.Proofs.Sink.Respect

/-! # Two builds side by side

The work on two trees that no write tells apart. The rounds of a build print the same, end the same
way and leave such trees again, as long as the snapshots that they read are the same.
-/

namespace RouteAtlas

/-- Work that came to the same on two desks, up to a relation between the trees left on them. -/
structure Work.Same {α : Type} (trees : FileTree → FileTree → Prop) (rel : α → α → Prop)
    (first second : Except Failure α × Desk) : Prop where
  result : Matched rel first.1 second.1
  printed : first.2.printed = second.2.printed
  tree : trees first.2.tree second.2.tree

/-- Work that comes to the same on each two desks with the same lines and related trees. -/
def Work.Alike {α : Type} (trees : FileTree → FileTree → Prop) (rel : α → α → Prop)
    (first second : Work α) : Prop :=
  ∀ here there : Desk, here.printed = there.printed → trees here.tree there.tree →
    Same trees rel (first.run.run here) (second.run.run there)

namespace Work.Alike

variable {trees : FileTree → FileTree → Prop}

theorem pure {α : Type} {rel : α → α → Prop} {first second : α} (related : rel first second) :
    Alike trees rel (Pure.pure first) (Pure.pure second) :=
  fun _ _ printed tree => ⟨.ok related, printed, tree⟩

theorem fail {α : Type} {rel : α → α → Prop} (failure : Failure) :
    Alike trees rel (throw failure) (throw failure) :=
  fun _ _ printed tree => ⟨.error failure, printed, tree⟩

theorem lift {α : Type} {rel : α → α → Prop} {first second : Except Failure α}
    (matched : Matched rel first second) :
    Alike trees rel (liftM first : Work α) (liftM second : Work α) := by
  intro here there printed tree
  cases matched with
  | ok related => exact ⟨.ok related, printed, tree⟩
  | error failure => exact ⟨.error failure, printed, tree⟩

theorem line (text : String) : Alike trees Eq (Work.line text) (Work.line text) :=
  fun _ _ printed tree => ⟨.ok rfl, congrArg (· ++ text ++ "\n") printed, tree⟩

theorem tree : Alike trees trees Work.tree Work.tree :=
  fun _ _ printed tree => ⟨.ok tree, printed, tree⟩

theorem setTree {first second : FileTree} (related : trees first second) :
    Alike trees Eq (Work.setTree first) (Work.setTree second) :=
  fun _ _ printed _ => ⟨.ok rfl, printed, related⟩

theorem bind {α β : Type} {rel : α → α → Prop} {next : β → β → Prop} {first second : Work α}
    {later last : α → Work β} (here : Alike trees rel first second)
    (rest : ∀ {a b : α}, rel a b → Alike trees next (later a) (last b)) :
    Alike trees next (first >>= later) (second >>= last) := by
  intro desk other printed tree
  rw [run_bind, run_bind]
  have start := here desk other printed tree
  generalize first.run.run desk = left, second.run.run other = right at start
  obtain ⟨result, after⟩ := left
  obtain ⟨_, otherAfter⟩ := right
  obtain ⟨matched, printed, tree⟩ := start
  cases matched with
  | ok related => exact rest related after otherAfter printed tree
  | error failure => exact ⟨.error failure, printed, tree⟩

theorem lines (texts : List String) : Alike trees Eq (Work.lines texts) (Work.lines texts) := by
  induction texts with
  | nil => exact pure rfl
  | cons text rest ih => exact bind (line text) fun _ => ih

end Work.Alike

/-- Related trees hold the same snapshots where paths lead. -/
def SameSnapshots (trees : FileTree → FileTree → Prop) (symbols : List String) : Prop :=
  ∀ path ∈ symbols, ∀ here there : FileTree, trees here there →
    here.loadSymbols path = there.loadSymbols path

/-- Builds that have come to the same so far, over trees that no write tells apart. -/
structure Progress.Over (trees : FileTree → FileTree → Prop) (first second : Progress) : Prop where
  session : Session.Over (WriteOnce.Over trees) first.session second.session
  documents : first.documents = second.documents
  tally : first.tally = second.tally

section

variable {trees : FileTree → FileTree → Prop}
  (respects : ∀ directory, (Sink.files directory).Respects trees) (plan : BuildPlan)

namespace BuildPlan

include respects

theorem respects_sink : plan.sink.Respects (WriteOnce.Over trees) :=
  Sink.respects_writeOnce (respects plan.directory)

theorem respects_docsSink : plan.docsSink.Respects (WriteOnce.Over trees) :=
  Sink.respects_writeOnce (respects plan.docsDirectory)

end BuildPlan

namespace Progress

theorem over_start {first second : FileTree} (related : trees first second) :
    Over trees (start first) (start second) :=
  ⟨⟨rfl, rfl, related, rfl⟩, rfl, rfl⟩

variable {first second : Progress} (paired : Over trees first second)

include paired in
theorem Over.tree : trees first.tree second.tree :=
  paired.session.state.inner

include respects paired

theorem writeDocument_over (document : RenderedUnit) :
    (first.writeDocument plan document).1 = (second.writeDocument plan document).1 ∧
      Over trees (first.writeDocument plan document).2
        (second.writeDocument plan document).2 := by
  obtain ⟨answer, after⟩ := plan.respects_docsSink respects ⟨first.tree, first.documents⟩
    ⟨second.tree, second.documents⟩ document ⟨paired.tree, paired.documents⟩
  unfold writeDocument
  generalize plan.docsSink.write ⟨first.tree, first.documents⟩ document = left at answer after ⊢
  generalize plan.docsSink.write ⟨second.tree, second.documents⟩ document = right
    at answer after ⊢
  obtain ⟨result, left⟩ := left
  obtain ⟨_, right⟩ := right
  obtain rfl := answer
  have session := paired.session
  match result with
  | .ok .written | .ok .unchanged =>
    exact ⟨rfl, ⟨session.build, session.carry, after.inner, session.state.digests⟩,
      after.digests, paired.tally⟩
  | .error error =>
    refine ⟨rfl, ⟨session.build, session.carry, after.inner, session.state.digests⟩,
      after.digests, ?_⟩
    simp only [paired.tally]

theorem writeDocuments_over (outcome : RoundOutcome) :
    (first.writeDocuments plan outcome).1 = (second.writeDocuments plan outcome).1 ∧
      Over trees (first.writeDocuments plan outcome).2
        (second.writeDocuments plan outcome).2 := by
  unfold writeDocuments
  cases outcome.docs with
  | some document => exact writeDocument_over respects plan paired document
  | none => exact ⟨rfl, paired⟩

theorem deliver_over (delivered : List Declaration) :
    (first.deliver plan delivered).1 = (second.deliver plan delivered).1 ∧
      Over trees (first.deliver plan delivered).2 (second.deliver plan delivered).2 := by
  obtain ⟨outcome, session⟩ :=
    plan.pipeline.deliver_over (plan.respects_sink respects) paired.session delivered
  obtain ⟨printed, next⟩ := writeDocuments_over respects plan
    (⟨session, paired.documents, paired.tally⟩ : Over trees { first with session := _ }
      { second with session := _ }) (plan.pipeline.deliver plan.sink first.session delivered).1
  simp only [deliver, ← outcome, ← printed]
  exact ⟨trivial, next.session, next.documents, by simp only [next.tally]⟩

theorem conclude_over :
    (first.conclude plan).1 = (second.conclude plan).1 ∧
      Over trees (first.conclude plan).2 (second.conclude plan).2 := by
  obtain ⟨outcome, session⟩ :=
    plan.pipeline.conclude_over (plan.respects_sink respects) paired.session
  obtain ⟨printed, next⟩ := writeDocuments_over respects plan
    (⟨session, paired.documents, paired.tally⟩ : Over trees { first with session := _ }
      { second with session := _ }) (plan.pipeline.conclude plan.sink first.session).1
  simp only [conclude, ← outcome, ← printed]
  exact ⟨trivial, next.session, next.documents, by simp only [next.tally]⟩

end Progress

include respects

/-- The rounds of a build go alike on trees that no write tells apart. -/
theorem runRounds_alike (number : Nat) {first second : Progress}
    (paired : Progress.Over trees first second) {symbols : List String}
    (loads : SameSnapshots trees symbols) :
    Work.Alike trees (Progress.Over trees) (runRounds plan number first symbols)
      (runRounds plan number second symbols) := by
  induction symbols generalizing number first second with
  | nil => exact .pure paired
  | cons path rest ih =>
      -- Each round reads its file from the trees that the rounds before it left.
      have loaded := loads path List.mem_cons_self _ _ paired.tree
      refine .bind (.lift (matched_eq_iff.mpr loaded)) ?_
      rintro snapshot _ rfl
      obtain ⟨printed, next⟩ := Progress.deliver_over respects plan paired snapshot.declarations
      simp only [← paired.session.carry, ← printed]
      refine .bind (.line _) fun _ => .bind (.setTree next.tree) fun _ =>
        .bind (.lines _) fun _ => ?_
      exact ih (number + 1) next fun later known => loads later (List.mem_cons_of_mem _ known)

theorem runPlan_alike {symbols : List String} (loads : SameSnapshots trees symbols) :
    Work.Alike trees Eq (runPlan plan symbols) (runPlan plan symbols) := by
  unfold runPlan
  refine .bind (.line _) fun _ => .bind (.lines _) fun _ => .bind .tree ?_
  intro here there related
  refine .bind (runRounds_alike respects plan 1 (Progress.over_start related) loads) ?_
  intro first second paired
  obtain ⟨printed, last⟩ := Progress.conclude_over respects plan paired
  simp only [← printed, ← last.tally]
  refine .bind (.line _) fun _ => .bind (.setTree last.tree) fun _ => .bind (.lines _) fun _ =>
    .bind (.lines _) fun _ => ?_
  split
  · exact .fail _
  · exact .pure rfl

end

/-! ## Failures of a build -/

/-- Whether a failure is one of a build that was started. -/
def Failure.isOfBuild : Failure → Bool
  | .noSymbols _ _ | .unclean _ _ => true
  | _ => false

/-- Work that fails only like a build. -/
def Work.FailsLate {α : Type} (work : Work α) : Prop :=
  ∀ desk failure, (work.run.run desk).1 = .error failure → failure.isOfBuild = true

namespace Work.FailsLate

theorem bind {α β : Type} {first : Work α} {next : α → Work β} (here : FailsLate first)
    (rest : ∀ value, FailsLate (next value)) : FailsLate (first >>= next) := by
  intro desk failure failed
  rw [run_bind] at failed
  have start := here desk
  generalize first.run.run desk = outcome at failed start
  obtain ⟨result, after⟩ := outcome
  cases result with
  | error =>
      cases failed
      exact start _ rfl
  | ok value => exact rest value after failure failed

theorem of_ok {α : Type} {work : Work α}
    (succeeds : ∀ desk, ∃ value after, work.run.run desk = (.ok value, after)) :
    FailsLate work := by
  intro desk failure failed
  obtain ⟨value, after, ran⟩ := succeeds desk
  rw [ran] at failed
  cases failed

theorem line (text : String) : FailsLate (Work.line text) :=
  of_ok fun _ => ⟨_, _, rfl⟩

theorem lines (texts : List String) : FailsLate (Work.lines texts) :=
  of_ok fun desk => ⟨(), run_lines texts desk⟩

theorem setTree (tree : FileTree) : FailsLate (Work.setTree tree) :=
  of_ok fun _ => ⟨_, _, rfl⟩

end Work.FailsLate

theorem FileTree.isOfBuild_loadSymbols {tree : FileTree} {path : String} {failure : Failure}
    (failed : tree.loadSymbols path = .error failure) : failure.isOfBuild = true := by
  unfold loadSymbols at failed
  split at failed
  · cases failed
    rfl
  · split at failed <;> cases failed
    rfl

theorem Progress.isOfBuild_snapshots {plan : BuildPlan} {paths : List String} {progress : Progress}
    {failure : Failure} (failed : progress.snapshots plan paths = .error failure) :
    failure.isOfBuild = true := by
  induction paths generalizing progress with
  | nil => cases failed
  | cons path rest ih =>
      cases loaded : progress.tree.loadSymbols path with
      | error =>
          rw [snapshots, loaded] at failed
          cases failed
          exact FileTree.isOfBuild_loadSymbols loaded
      | ok snapshot =>
          rw [snapshots, loaded] at failed
          exact ih (map_eq_error_iff.mp failed)

/-- A build that was started fails for its snapshots and its units only. -/
theorem failsLate_runPlan (plan : BuildPlan) (symbols : List String) :
    (runPlan plan symbols).FailsLate := by
  unfold runPlan
  refine .bind (.line _) fun _ => .bind (.lines _) fun _ =>
    .bind (.of_ok fun _ => ⟨_, _, rfl⟩) fun tree => .bind ?_ fun progress => ?_
  · intro desk failure failed
    rw [Progress.run_runRounds, map_eq_error_iff] at failed
    exact Progress.isOfBuild_snapshots failed
  · rcases progress.conclude plan with ⟨printed, last⟩
    refine .bind (.line _) fun _ => .bind (.setTree _) fun _ => .bind (.lines _) fun _ =>
      .bind (.lines _) fun _ => ?_
    split
    · rintro _ _ ⟨⟩
      rfl
    · exact .of_ok fun _ => ⟨_, _, rfl⟩

end RouteAtlas
