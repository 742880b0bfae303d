import RouteAtlas.Proofs.Delivery.Carry

/-! # Versions of library types

A class without annotations joins the library when it is first delivered. A later version of it
counts in the round that it is delivered in, and after that the first one counts again.
-/

namespace RouteAtlas

/-- The version of a class that was delivered first. -/
def firstVersion? (name : String) (deliveries : List (List Declaration)) : Option Declaration :=
  deliveries.findSome? fun delivered => (SymbolTable.ofList delivered).resolve name

/-- The version of a class that was delivered last. -/
def latestVersion? (name : String) (deliveries : List (List Declaration)) : Option Declaration :=
  deliveries.reverse.findSome? fun delivered => (SymbolTable.ofList delivered).resolve name

theorem latestVersion?_concat (name : String) (earlier : List (List Declaration))
    (delivered : List Declaration) :
    latestVersion? name (earlier ++ [delivered]) =
      ((SymbolTable.ofList delivered).resolve name).or (latestVersion? name earlier) := by
  rw [latestVersion?, List.reverse_append, List.findSome?_append]
  simp [latestVersion?]

/-- No version of a class that was delivered has annotations. -/
def Unmarked (name : String) (deliveries : List (List Declaration)) : Prop :=
  ∀ delivered ∈ deliveries, ∀ decl ∈ delivered, decl.qualifiedName = name → decl.isMarked = false

/-- What is carried on of a class: its first version, in the library. -/
structure Carry.Keeps (name : String) (carry : Carry) (first : Option Declaration) : Prop where
  library : (SymbolTable.ofList carry.library).resolve name = first
  deferred : name ∉ declarationNames carry.deferred

namespace Carry

variable {name : String} {carry : Carry} {first : Option Declaration}
  {delivered : List Declaration}

theorem Keeps.resolve (keeps : Keeps name carry first) (delivered : List Declaration) :
    (carry.table delivered).resolve name =
      ((SymbolTable.ofList delivered).resolve name).or first := by
  rw [table, SymbolTable.resolve_extend, SymbolTable.resolve_extend,
    SymbolTable.resolve_ofList_eq_none_iff.mpr keeps.deferred, Option.none_or, keeps.library]

theorem knows_iff : carry.knows name = true ↔ name ∈ declarationNames carry.library := by
  simp [knows, declarationNames]

/-- A class that joins the library does so in the version of the round. -/
theorem resolve_advance {table : SymbolTable} {deferred : List String}
    (plain : ∀ decl, table.resolve name = some decl → decl.isMarked = false) :
    (SymbolTable.ofList (carry.advance table deferred).library).resolve name =
      ((SymbolTable.ofList carry.library).resolve name).or (table.resolve name) := by
  let joining := table.declarations.filter fun decl =>
    !decl.isMarked && !carry.knows decl.qualifiedName
  change (SymbolTable.ofList (carry.library ++ joining)).resolve name = _
  rw [SymbolTable.resolve_ofList_append]
  cases known : carry.knows name with
  | true =>
      have fresh : name ∉ declarationNames joining := by
        intro listed
        obtain ⟨decl, member, rfl⟩ := List.mem_map.mp listed
        have unknown := (List.mem_filter.mp member).2
        rw [known, Bool.not_true, Bool.and_false] at unknown
        cases unknown
      have held : (SymbolTable.ofList carry.library).resolve name ≠ none := fun absent =>
        SymbolTable.resolve_ofList_eq_none_iff.mp absent (knows_iff.mp known)
      obtain ⟨decl, found⟩ := Option.ne_none_iff_exists'.mp held
      rw [SymbolTable.resolve_ofList_eq_none_iff.mpr fresh, found, Option.none_or, Option.some_or]
  | false =>
      have absent : (SymbolTable.ofList carry.library).resolve name = none := by
        rw [SymbolTable.resolve_ofList_eq_none_iff, ← knows_iff, known]
        exact Bool.false_ne_true
      rw [absent, Option.or_none, Option.none_or]
      cases found : table.resolve name with
      | none =>
          rw [SymbolTable.resolve_ofList_eq_none_iff]
          intro listed
          obtain ⟨decl, member, rfl⟩ := List.mem_map.mp listed
          rw [SymbolTable.resolve_of_mem (List.mem_filter.mp member).1] at found
          cases found
      | some decl =>
          have named := SymbolTable.name_of_resolve found
          have member : decl ∈ joining := by
            refine List.mem_filter.mpr ⟨SymbolTable.mem_of_resolve found, ?_⟩
            rw [plain decl found, named, known]
            rfl
          have distinct : (declarationNames joining).Nodup :=
            table.distinct.sublist (List.filter_sublist.map _)
          rw [← SymbolTable.declarations_ofList distinct] at member
          rw [← named, SymbolTable.resolve_of_mem member]

variable {σ : Type} {pipeline : Pipeline} {sink : Sink σ} {session : Session σ}

/-- A round keeps the version of a class that came first. -/
theorem Keeps.deliver (keeps : Keeps name session.carry first)
    (known : ∀ decl, first = some decl → decl.isMarked = false)
    (plain : Unmarked name [delivered]) :
    Keeps name (pipeline.deliver sink session delivered).2.carry
      (first.or ((SymbolTable.ofList delivered).resolve name)) := by
  have resolved := keeps.resolve delivered
  have unmarked : ∀ decl, (session.carry.table delivered).resolve name = some decl →
      decl.isMarked = false := by
    intro decl found
    rw [resolved, Option.or_eq_some_iff] at found
    rcases found with now | ⟨-, before⟩
    · exact plain delivered List.mem_cons_self decl (SymbolTable.mem_of_resolve_ofList now)
        (SymbolTable.name_of_resolve now)
    · exact known decl before
  constructor
  case library =>
    refine (resolve_advance unmarked).trans ?_
    rw [keeps.library, resolved]
    cases first <;> cases (SymbolTable.ofList delivered).resolve name <;> rfl
  case deferred =>
    -- What is put off is annotated, and its name stands for nothing else in the table of the round.
    intro listed
    obtain ⟨decl, member, rfl⟩ := List.mem_map.mp listed
    obtain ⟨inTable, putOff⟩ := List.mem_filter.mp member
    obtain ⟨twin, twinIn, -, marked, named⟩ :=
      Pipeline.mem_deferred.mp (List.contains_iff_mem.mp putOff)
    have found := SymbolTable.resolve_of_mem twinIn
    rw [named] at found
    rw [unmarked twin found] at marked
    cases marked

theorem Keeps.deliverAll {earlier deliveries : List (List Declaration)}
    (keeps : Keeps name session.carry (firstVersion? name earlier))
    (plain : Unmarked name (earlier ++ deliveries)) :
    Keeps name (pipeline.deliverAll sink session deliveries).2.carry
      (firstVersion? name (earlier ++ deliveries)) := by
  induction deliveries generalizing session earlier with
  | nil => rwa [List.append_nil]
  | cons delivered rest ih =>
      rw [← List.singleton_append, ← List.append_assoc] at plain ⊢
      refine ih ?_ plain
      have first : firstVersion? name (earlier ++ [delivered]) = (firstVersion? name earlier).or
          ((SymbolTable.ofList delivered).resolve name) := by
        rw [firstVersion?, List.findSome?_append]
        simp [firstVersion?]
      rw [first]
      refine keeps.deliver ?_ ?_
      · intro decl found
        obtain ⟨snapshot, member, here⟩ := List.exists_of_findSome?_eq_some found
        exact plain snapshot (List.mem_append_left _ (List.mem_append_left _ member)) decl
          (SymbolTable.mem_of_resolve_ofList here) (SymbolTable.name_of_resolve here)
      · intro snapshot member
        exact plain snapshot (List.mem_append_left _ (List.mem_append_right _ member))

end Carry

/-- What a name stands for in the table of a round, by the versions that were delivered under it. -/
structure VersionLaw (name : String) (earlier : List (List Declaration))
    (delivered : List Declaration) (table : SymbolTable) : Prop where
  found : table.resolve name =
    ((SymbolTable.ofList delivered).resolve name).or (firstVersion? name earlier)
  known : (table.resolve name).isSome = true ↔
    ∃ snapshot ∈ earlier ++ [delivered], name ∈ declarationNames snapshot
  /-- It is the latest version if this comes in the round itself, or was the first one already. -/
  latest : table.resolve name = latestVersion? name (earlier ++ [delivered]) ↔
    name ∈ declarationNames delivered ∨ firstVersion? name earlier = latestVersion? name earlier

section Law

variable {name : String} {earlier : List (List Declaration)} {delivered : List Declaration}

theorem mem_names_iff :
    name ∈ declarationNames delivered ↔
      ((SymbolTable.ofList delivered).resolve name).isSome = true := by
  rw [Option.isSome_iff_ne_none, ne_eq, SymbolTable.resolve_ofList_eq_none_iff, not_not]

theorem versionLaw_of_found {table : SymbolTable}
    (found : table.resolve name =
      ((SymbolTable.ofList delivered).resolve name).or (firstVersion? name earlier)) :
    VersionLaw name earlier delivered table where
  found := found
  known := by
    rw [found, Option.isSome_or, Bool.or_eq_true, firstVersion?, List.findSome?_isSome_iff]
    simp [mem_names_iff, or_comm]
  latest := by
    rw [found, latestVersion?_concat, mem_names_iff]
    cases (SymbolTable.ofList delivered).resolve name <;> simp

/-- Of a class without annotations the version of a round counts, or else the first one of all. -/
theorem versionLaw_of_unmarked {σ : Type} (pipeline : Pipeline) (sink : Sink σ)
    (build : BuildState) (state : σ) (plain : Unmarked name (earlier ++ [delivered])) :
    VersionLaw name earlier delivered
      ((pipeline.deliverAll sink { build, state } earlier).2.carry.table delivered) := by
  apply versionLaw_of_found
  have start : Carry.Keeps name {} (firstVersion? name []) := ⟨rfl, List.not_mem_nil⟩
  have before : Unmarked name ([] ++ earlier) := fun snapshot member =>
    plain snapshot (List.mem_append_left _ member)
  exact (start.deliverAll before).resolve delivered

end Law

section Update

private def baseClass (supertypes : List TypeRef) : Declaration :=
  { qualifiedName := "app.Base", supertypes }

private def updates : List (List Declaration) :=
  [[baseClass []], [baseClass [.named Contract.activity]]]

private def plainPipeline : Pipeline :=
  { options := { moduleName := some "app" } }

/-- A class that is delivered twice, and looked up in the round after. -/
theorem versionLaw_of_updates :
    Unmarked "app.Base" (updates ++ [[]]) ∧
      VersionLaw "app.Base" updates []
        ((plainPipeline.deliverAll .memory { state := .empty } updates).2.carry.table []) ∧
      firstVersion? "app.Base" updates = some (baseClass []) := by
  have plain : Unmarked "app.Base" (updates ++ [[]]) := by
    unfold Unmarked
    decide +kernel
  exact ⟨plain, versionLaw_of_unmarked plainPipeline .memory {} .empty plain, by decide +kernel⟩

/-- The version that was delivered last is forgotten in the round after. -/
theorem update_forgotten :
    Unmarked "app.Base" (updates ++ [[]]) ∧
      latestVersion? "app.Base" (updates ++ [[]]) = some (baseClass [.named Contract.activity]) ∧
      ((plainPipeline.deliverAll .memory { state := .empty } updates).2.carry.table []).resolve
        "app.Base" = some (baseClass []) := by
  refine ⟨by unfold Unmarked; decide +kernel, by decide +kernel, by decide +kernel⟩

end Update

end RouteAtlas
