import RouteAtlas.Proofs.Delivery.Split
import RouteAtlas.Proofs.Injection.Plan

/-! # Injectors of a split round

The injectors of a round are all written or none is, and the first one of a name is kept. So the
injectors of a split round are those of the whole round if the class that comes late agrees with the
others on whether private fields are annotated, and if no other has an injector of the same name.
-/

namespace RouteAtlas

/-- No annotated field of the classes is private. -/
def Accessible (decls : List Declaration) : Prop :=
  ∀ decl ∈ decls, ∀ property ∈ decl.injected, property.visibility ≠ .privateScope

theorem accessible_cons {decl : Declaration} {decls : List Declaration} :
    Accessible (decl :: decls) ↔ Accessible [decl] ∧ Accessible decls := by
  simp [Accessible]

theorem accessible_congr {decls others : List Declaration}
    (same : ∀ decl, decl.injected ≠ [] → (decl ∈ decls ↔ decl ∈ others)) :
    Accessible decls ↔ Accessible others := by
  have wired : ∀ {decl : Declaration} {property}, property ∈ decl.injected → decl.injected ≠ [] :=
    fun member => List.ne_nil_of_mem member
  constructor
  · intro accessible decl member property injected
    exact accessible decl ((same decl (wired injected)).mpr member) property injected
  · intro accessible decl member property injected
    exact accessible decl ((same decl (wired injected)).mp member) property injected

theorem SymbolTable.checkOwners_eq_ok_iff {owners : List Declaration} :
    SymbolTable.checkOwners owners = .ok () ↔ Accessible owners := by
  rw [checkOwners, forM_eq_ok_iff]
  refine forall₂_congr fun owner _ => ?_
  rw [forM_eq_ok_iff]
  refine forall₂_congr fun property _ => ?_
  unfold checkAccess
  split <;> simp_all

namespace SymbolTable

/-- The plans of the injectors of some classes. -/
def plansOf (table : SymbolTable) (owners : List Declaration) : List InjectorPlan :=
  owners.filterMap fun owner => (table.injectorOf owner).toOption

theorem plansOf_append (table : SymbolTable) (first second : List Declaration) :
    table.plansOf (first ++ second) = table.plansOf first ++ table.plansOf second :=
  List.filterMap_append

theorem plansOf_congr {table other : SymbolTable} {owners : List Declaration}
    (alike : ∀ owner ∈ owners, Alike table other owner) :
    table.plansOf owners = other.plansOf owners :=
  List.filterMap_congr fun owner member => by rw [(alike owner member).injectorOf]

theorem mem_plansOf {table : SymbolTable} {owners : List Declaration} {plan : InjectorPlan}
    (member : plan ∈ table.plansOf owners) : ∃ owner ∈ owners, plan.target = owner.asType := by
  obtain ⟨owner, known, made⟩ := List.mem_filterMap.mp member
  obtain ⟨blocks, -, rfl⟩ := compileInjector_eq_ok_iff.mp (toOption_eq_some_iff.mp made)
  exact ⟨owner, known, rfl⟩

theorem find_plansOf_eq_none {language : Language} {table : SymbolTable}
    {owners : List Declaration} {key : UnitKey}
    (apart : ∀ owner ∈ owners, UnitKey.injector owner.asType ≠ key) :
    Ledger.find (language.renderAll ((table.plansOf owners).map InjectorPlan.unit)) key = none := by
  apply language.find_renderAll_eq_none
  intro unit member
  obtain ⟨plan, made, rfl⟩ := List.mem_map.mp member
  obtain ⟨owner, listed, target⟩ := mem_plansOf made
  change UnitKey.injector plan.target ≠ key
  rw [target]
  exact apart owner listed

/-- Where the plan of a class stands makes no difference if no other class has an injector of its
    name. -/
theorem find_plansOf_middle (language : Language) (table : SymbolTable)
    {before after : List Declaration} {late : Declaration}
    (apart : ∀ owner ∈ before ++ after,
      UnitKey.injector owner.asType ≠ UnitKey.injector late.asType) (key : UnitKey) :
    Ledger.find (language.renderAll ((table.plansOf (before ++ after)).map InjectorPlan.unit ++
        (table.plansOf [late]).map InjectorPlan.unit)) key =
      Ledger.find (language.renderAll
        ((table.plansOf (before ++ late :: after)).map InjectorPlan.unit)) key := by
  have whole : table.plansOf (before ++ late :: after) =
      table.plansOf before ++ (table.plansOf [late] ++ table.plansOf after) := by
    rw [← plansOf_append, ← plansOf_append]
    rfl
  rw [whole]
  simp only [plansOf_append, List.map_append, Language.renderAll_append, Ledger.find_append]
  by_cases here : key = .injector late.asType
  · have unknown : ∀ owners ⊆ before ++ after,
        Ledger.find (language.renderAll ((table.plansOf owners).map InjectorPlan.unit))
          (.injector late.asType) = none := fun owners found =>
      find_plansOf_eq_none fun owner listed => apart owner (found listed)
    rw [here, unknown before (List.subset_append_left _ _),
      unknown after (List.subset_append_right _ _)]
    simp
  · have elsewhere : Ledger.find (language.renderAll
        ((table.plansOf [late]).map InjectorPlan.unit)) key = none := by
      apply find_plansOf_eq_none
      intro owner listed
      rw [List.mem_singleton.mp listed]
      exact Ne.symm here
    rw [elsewhere]
    simp

end SymbolTable

namespace Pipeline

variable {table : SymbolTable} {owners : List Declaration}

theorem injectorOffer_of_accessible (found : resolvedOnes table.owners = owners)
    (accessible : Accessible owners) :
    injectorOffer table = (table.plansOf owners).map InjectorPlan.unit := by
  have passed := SymbolTable.checkOwners_eq_ok_iff.mpr accessible
  rw [injectorOffer, SymbolTable.plans, found, passed]
  rfl

theorem injectorOffer_of_not_accessible (found : resolvedOnes table.owners = owners)
    (hidden : ¬Accessible owners) : injectorOffer table = [] := by
  rw [injectorOffer, found]
  cases checked : SymbolTable.checkOwners owners with
  | error => rfl
  | ok => exact absurd (SymbolTable.checkOwners_eq_ok_iff.mp checked) hidden

theorem injectorOffer_congr {other : SymbolTable} (found : resolvedOnes table.owners = owners)
    (otherFound : resolvedOnes other.owners = owners)
    (alike : ∀ owner ∈ owners, SymbolTable.Alike table other owner) :
    injectorOffer table = injectorOffer other := by
  by_cases accessible : Accessible owners
  · rw [injectorOffer_of_accessible found accessible,
      injectorOffer_of_accessible otherFound accessible, SymbolTable.plansOf_congr alike]
  · rw [injectorOffer_of_not_accessible found accessible,
      injectorOffer_of_not_accessible otherFound accessible]

theorem injectorOffer_nil (found : resolvedOnes table.owners = []) : injectorOffer table = [] :=
  injectorOffer_of_accessible found fun _ member => nomatch member

end Pipeline

/-- Other classes with injected fields do not stand in the way of the injector of a class, nor does
    this class stand in the way of theirs. -/
def InjectorApart (others : List Declaration) (late : Declaration) : Prop :=
  late.injected ≠ [] → (∃ decl ∈ others, decl.injected ≠ []) →
    (Accessible others ↔ Accessible [late]) ∧
      ∀ decl ∈ others, decl.injected ≠ [] →
        UnitKey.injector decl.asType ≠ UnitKey.injector late.asType

namespace SymbolTable.Split

variable {others : List Declaration} {late : Declaration} {whole first second : SymbolTable}
  (split : Split others late whole first second)
include split

/-- The annotated classes of the rounds: the late one is missing in the first round, and alone in
    the second. -/
theorem owners_cases :
    (late.injected = [] ∧ resolvedOnes first.owners = resolvedOnes whole.owners ∧
      resolvedOnes second.owners = []) ∨
    (late.injected ≠ [] ∧ ∃ before after,
      resolvedOnes whole.owners = before ++ late :: after ∧
      resolvedOnes first.owners = before ++ after ∧ resolvedOnes second.owners = [late]) := by
  have marks : ∀ decl : Declaration, decl.isWired = true → decl.isMarked = true := by
    intro decl wired
    exact Declaration.isMarked_iff.mpr (.inr (.inr (Declaration.isWired_iff.mp wired)))
  have ascending : ∀ table : SymbolTable,
      (resolvedOnes table.owners).Pairwise fun a b => a.qualifiedName < b.qualifiedName :=
    fun table => table.owners_ascending.sublist List.filter_sublist
  have wholeOwners : (resolvedOnes whole.owners).Perm
      (others.filter Declaration.isWired ++ [late].filter Declaration.isWired) := by
    have found := whole.found_owners_perm
    rw [split.found_whole] at found
    exact found.trans split.perm_whole
  have firstOwners := first.found_owners_perm.trans split.found_first
  have secondOwners := second.found_owners_perm
  rw [split.found_second marks] at secondOwners
  by_cases plain : late.injected = []
  · have nothing : [late].filter Declaration.isWired = [] := by
      simp [Declaration.isWired, plain]
    rw [nothing] at wholeOwners secondOwners
    rw [List.append_nil] at wholeOwners
    refine .inl ⟨plain, ?_, List.perm_nil.mp secondOwners⟩
    exact owners_eq (firstOwners.trans wholeOwners.symm) (ascending first) (ascending whole)
  · have one : [late].filter Declaration.isWired = [late] := by
      simp [Declaration.isWired, plain]
    rw [one] at wholeOwners secondOwners
    obtain ⟨before, after, listed⟩ := List.append_of_mem
      (wholeOwners.mem_iff.mpr (List.mem_append_right _ List.mem_cons_self))
    refine .inr ⟨plain, before, after, listed, ?_, List.perm_singleton.mp secondOwners⟩
    have kept : (before ++ after).Sublist (resolvedOnes whole.owners) := by
      rw [listed]
      exact List.Sublist.append_left (List.sublist_cons_self _ _) _
    have rest : (before ++ after).Perm (others.filter Declaration.isWired) := by
      rw [listed] at wholeOwners
      exact (List.perm_middle.symm.trans (wholeOwners.trans List.perm_append_comm)).cons_inv
    exact owners_eq (firstOwners.trans rest.symm) (ascending first) ((ascending whole).sublist kept)

theorem mem_owners_first {decl : Declaration} (owner : decl.injected ≠ []) :
    decl ∈ resolvedOnes first.owners ↔ decl ∈ others := by
  rw [(first.found_owners_perm.trans split.found_first).mem_iff, List.mem_filter]
  exact and_iff_left (Declaration.isWired_iff.mpr owner)

/-- The injectors that are kept are those of the whole round. -/
theorem find_injectors (alike : Alike second whole late) (language : Language)
    (apart : InjectorApart others late) (key : UnitKey) :
    Ledger.find (language.renderAll
        (Pipeline.injectorOffer first ++ Pipeline.injectorOffer second)) key =
      Ledger.find (language.renderAll (Pipeline.injectorOffer whole)) key := by
  have known : ∀ {decl}, decl ∈ resolvedOnes first.owners → decl ∈ others ∧ decl.injected ≠ [] := by
    intro decl member
    have owner := (mem_owners.mp (List.mem_filter.mp member).1).2
    exact ⟨(split.mem_owners_first owner).mp member, owner⟩
  rcases split.owners_cases with ⟨plain, firstOwners, secondOwners⟩ |
    ⟨wired, before, after, wholeOwners, firstOwners, secondOwners⟩
  · -- The late class has no injector, and the first round has the others.
    rw [Pipeline.injectorOffer_nil secondOwners, List.append_nil,
      Pipeline.injectorOffer_congr rfl firstOwners.symm fun owner member =>
        split.firstAlike owner (known member).1]
  · by_cases alone : ∃ decl ∈ others, decl.injected ≠ []
    · -- Either every class with injected fields keeps them accessible, or neither round and not the
      -- whole one writes an injector.
      obtain ⟨agree, keys⟩ := apart wired alone
      have firstAccessible : Accessible (before ++ after) ↔ Accessible others := by
        rw [← firstOwners]
        exact accessible_congr fun decl owner => split.mem_owners_first owner
      have wholeAccessible : Accessible (before ++ late :: after) ↔
          Accessible [late] ∧ Accessible (before ++ after) := by
        rw [← accessible_cons]
        exact accessible_congr fun decl _ => List.perm_middle.mem_iff
      by_cases accessible : Accessible [late]
      · have firstOpen := firstAccessible.mpr (agree.mpr accessible)
        have firstPlans : first.plansOf (before ++ after) = whole.plansOf (before ++ after) := by
          apply plansOf_congr
          intro owner listed
          rw [← firstOwners] at listed
          exact split.firstAlike owner (known listed).1
        have secondPlans : second.plansOf [late] = whole.plansOf [late] := by
          apply plansOf_congr
          intro owner listed
          rw [List.mem_singleton.mp listed]
          exact alike
        rw [Pipeline.injectorOffer_of_accessible firstOwners firstOpen,
          Pipeline.injectorOffer_of_accessible secondOwners accessible,
          Pipeline.injectorOffer_of_accessible wholeOwners
            (wholeAccessible.mpr ⟨accessible, firstOpen⟩), firstPlans, secondPlans]
        refine find_plansOf_middle language whole (fun owner listed => ?_) key
        rw [← firstOwners] at listed
        exact keys owner (known listed).1 (known listed).2
      · have firstHidden : ¬Accessible (before ++ after) :=
          fun passed => accessible (agree.mp (firstAccessible.mp passed))
        have wholeHidden : ¬Accessible (before ++ late :: after) :=
          fun passed => accessible (wholeAccessible.mp passed).1
        rw [Pipeline.injectorOffer_of_not_accessible firstOwners firstHidden,
          Pipeline.injectorOffer_of_not_accessible secondOwners accessible,
          Pipeline.injectorOffer_of_not_accessible wholeOwners wholeHidden]
        rfl
    · have nobody : before ++ after = [] := by
        rw [← firstOwners]
        refine List.eq_nil_iff_forall_not_mem.mpr fun decl member => ?_
        exact alone ⟨decl, known member⟩
      obtain ⟨rfl, rfl⟩ := List.append_eq_nil_iff.mp nobody
      rw [Pipeline.injectorOffer_nil firstOwners, List.nil_append,
        Pipeline.injectorOffer_congr secondOwners wholeOwners fun owner member => by
          rw [List.mem_singleton.mp member]
          exact alike]

end SymbolTable.Split

end RouteAtlas
