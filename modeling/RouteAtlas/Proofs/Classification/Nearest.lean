import Mathlib.Order.Lattice.Nat
import RouteAtlas.Proofs.Classification.Reach
import RouteAtlas.Proofs.SymbolTable

/-! # Nearest ancestors

A walk over the supertypes of a declaration visits every name that it leads to once, and no name
before one that is nearer. So the first match among the ancestors is a nearest one.
-/

namespace RouteAtlas

theorem firstMatch_eq_none_iff {lineage candidates : List String} :
    firstMatch lineage candidates = none ↔ ∀ candidate ∈ candidates, candidate ∉ lineage := by
  simp only [firstMatch, List.findSome?_eq_none_iff, List.findIdx?_eq_none_iff,
    beq_eq_false_iff_ne]
  constructor
  · intro apart candidate member listed
    exact apart candidate listed candidate member rfl
  · rintro apart name listed candidate member rfl
    exact apart candidate member listed

theorem firstMatch_isSome_iff {lineage : List String} {contract : String} :
    (firstMatch lineage [contract]).isSome = true ↔ contract ∈ lineage := by
  rw [← Option.ne_none_iff_isSome, ne_eq, firstMatch_eq_none_iff]
  simp

/-- A match is the first of its name among the candidates, and none of them stands before it in the
    lineage. -/
theorem exists_of_firstMatch {lineage candidates : List String} {place : Nat}
    (found : firstMatch lineage candidates = some place) :
    ∃ before name after, lineage = before ++ name :: after ∧
      (∀ candidate ∈ candidates, candidate ∉ before) ∧
      candidates[place]? = some name ∧ ∀ earlier < place, candidates[earlier]? ≠ some name := by
  obtain ⟨before, name, after, split, here, absent⟩ := List.findSome?_eq_some_iff.mp found
  refine ⟨before, name, after, split, firstMatch_eq_none_iff.mp ?_, ?_⟩
  · exact List.findSome?_eq_none_iff.mpr absent
  · obtain ⟨bound, same, first⟩ := List.findIdx?_eq_some_iff_getElem.mp here
    refine ⟨List.getElem?_eq_some_iff.mpr ⟨bound, eq_of_beq same⟩, fun earlier less there => ?_⟩
    obtain ⟨_, named⟩ := List.getElem?_eq_some_iff.mp there
    exact first earlier less (beq_iff_eq.mpr named)

namespace SymbolTable

variable {table : SymbolTable} {seen queue front behind : List String} {origin name : String}
  {level steps : Nat}

/-- A name is reached from another over a number of references to supertypes. -/
inductive ReachesIn (table : SymbolTable) (origin : String) : Nat → String → Prop where
  | start : ReachesIn table origin 0 origin
  | step {steps name next} (reached : ReachesIn table origin steps name)
    (listed : next ∈ table.supertypeNames name) : ReachesIn table origin (steps + 1) next

/-- What is reached is reached over some number of references, so there is a least one. -/
theorem reaches_iff : table.Reaches origin name ↔ ∃ steps, table.ReachesIn origin steps name := by
  constructor
  · intro reached
    induction reached with
    | refl => exact ⟨0, .start⟩
    | tail _ listed ih =>
        obtain ⟨steps, reached⟩ := ih
        exact ⟨steps + 1, .step reached listed⟩
  · rintro ⟨steps, reached⟩
    induction reached with
    | start => exact .refl
    | step _ listed ih => exact .tail ih listed

/-- The least number of references over which a name is reached. -/
noncomputable def distance (table : SymbolTable) (origin name : String) : Nat :=
  sInf {steps | table.ReachesIn origin steps name}

theorem reachesIn_distance (reached : table.Reaches origin name) :
    table.ReachesIn origin (table.distance origin name) name :=
  Nat.sInf_mem (s := {steps | table.ReachesIn origin steps name}) (reaches_iff.mp reached)

theorem distance_le (reached : table.ReachesIn origin steps name) :
    table.distance origin name ≤ steps :=
  Nat.sInf_le reached

section Walk

theorem not_mem_of_mem_walk (visited : name ∈ table.walk seen queue) : name ∉ seen := by
  revert visited
  induction seen, queue using walk_induction table with
  | done => simp
  | skip seen first queue known ih => rwa [walk_seen known]
  | visit seen first queue fresh ih =>
      rw [walk_fresh fresh, List.mem_cons]
      rintro (rfl | visited)
      · exact fresh
      · exact List.not_mem_of_not_mem_cons (ih visited)

theorem nodup_walk : (table.walk seen queue).Nodup := by
  induction seen, queue using walk_induction table with
  | done => simp
  | skip seen first queue known ih => rwa [walk_seen known]
  | visit seen first queue fresh ih =>
      rw [walk_fresh fresh, List.nodup_cons]
      exact ⟨fun again => not_mem_of_mem_walk again List.mem_cons_self, ih⟩

/-- If the supertypes of the names seen are seen or queued, then those of all names that are seen in
    the end are seen as well. -/
theorem closed_walk
    (closed : ∀ name ∈ seen, ∀ next ∈ table.supertypeNames name, next ∈ seen ∨ next ∈ queue) :
    ∀ name ∈ seen ++ table.walk seen queue,
      table.supertypeNames name ⊆ seen ++ table.walk seen queue := by
  revert closed
  induction seen, queue using walk_induction table with
  | done seen =>
      intro closed name known next listed
      rw [walk_nil, List.append_nil] at known ⊢
      exact (closed name known next listed).resolve_right List.not_mem_nil
  | skip seen first queue known ih =>
      intro closed
      rw [walk_seen known]
      refine ih fun name before next listed => ?_
      rcases closed name before next listed with old | queued
      · exact .inl old
      · rcases List.mem_cons.mp queued with rfl | queued
        · exact .inl known
        · exact .inr queued
  | visit seen first queue fresh ih =>
      intro closed
      have same : ∀ name, name ∈ seen ++ table.walk seen (first :: queue) ↔
          name ∈ first :: seen ++
            table.walk (first :: seen) (queue ++ table.supertypeNames first) := by
        intro name
        rw [walk_fresh fresh]
        simp only [List.mem_append, List.mem_cons]
        tauto
      intro name visited next listed
      rw [same] at visited ⊢
      refine ih (fun name before next listed => ?_) name visited listed
      rcases List.mem_cons.mp before with rfl | old
      · exact .inr (List.mem_append_right _ listed)
      · have place := closed name old next listed
        simp only [List.mem_append, List.mem_cons] at place ⊢
        tauto

/-- A walk that starts at a name visits what is reached from it, and nothing else. -/
theorem mem_walk_iff :
    name ∈ table.walk [origin] (table.supertypeNames origin) ↔
      name ≠ origin ∧ table.Reaches origin name := by
  constructor
  · intro visited
    obtain ⟨first, queued, reached⟩ := exists_reaches_of_mem_walk visited
    exact ⟨fun same => not_mem_of_mem_walk visited (List.mem_singleton.mpr same),
      .head queued reached⟩
  · rintro ⟨other, reached⟩
    have queued : ∀ first ∈ [origin], ∀ next ∈ table.supertypeNames first,
        next ∈ [origin] ∨ next ∈ table.supertypeNames origin := by
      intro first single next listed
      rw [List.mem_singleton.mp single] at listed
      exact .inr listed
    have visited :=
      mem_of_reaches (closed_walk queued) reached (List.mem_append_left _ List.mem_cons_self)
    rcases List.mem_append.mp visited with single | walked
    · exact absurd (List.mem_singleton.mp single) other
    · exact walked

end Walk

/-- How far a walk has come: what is nearer than its level was seen, what is on its level was seen
    or stands in front of the queue, and behind that stands what lies one level further. -/
structure Frontier (table : SymbolTable) (origin : String) (level : Nat)
    (seen front behind : List String) : Prop where
  nearer : ∀ steps < level, ∀ name, table.ReachesIn origin steps name → name ∈ seen
  onLevel : ∀ name, table.ReachesIn origin level name → name ∈ seen ∨ name ∈ front
  reached : ∀ name ∈ front, table.ReachesIn origin level name
  further : ∀ name ∈ behind, table.ReachesIn origin (level + 1) name
  closed : ∀ name ∈ seen, ∀ next ∈ table.supertypeNames name,
    next ∈ seen ∨ next ∈ front ∨ next ∈ behind

namespace Frontier

theorem start (table : SymbolTable) (origin : String) :
    table.Frontier origin 1 [origin] (table.supertypeNames origin) [] where
  nearer := by
    intro steps less name reached
    obtain rfl : steps = 0 := by omega
    cases reached
    exact List.mem_cons_self
  onLevel := by
    rintro name (_ | ⟨reached, listed⟩)
    cases reached
    exact .inr listed
  reached := fun name listed => .step .start listed
  further := fun name nothing => absurd nothing List.not_mem_nil
  closed := by
    intro name single next listed
    rw [List.mem_singleton.mp single] at listed
    exact .inr (.inl listed)

/-- Once nothing is left of a level, the next one begins. -/
theorem advance (frontier : table.Frontier origin level seen [] behind) :
    table.Frontier origin (level + 1) seen behind [] where
  nearer := by
    intro steps less name reached
    rcases Nat.lt_succ_iff_lt_or_eq.mp less with before | rfl
    · exact frontier.nearer steps before name reached
    · exact (frontier.onLevel name reached).resolve_right List.not_mem_nil
  onLevel := by
    rintro name (_ | ⟨reached, listed⟩)
    have known := (frontier.onLevel _ reached).resolve_right List.not_mem_nil
    exact (frontier.closed _ known name listed).imp_right fun queued =>
      queued.resolve_left List.not_mem_nil
  reached := frontier.further
  further := fun name nothing => absurd nothing List.not_mem_nil
  closed := by
    intro name known next listed
    have place := frontier.closed name known next listed
    simp only [List.not_mem_nil, false_or, or_false] at place ⊢
    exact place

/-- The first name of a queue is on the level of the walk, or on the next one if that is done. -/
theorem exists_front (frontier : table.Frontier origin level seen front behind)
    (whole : front ++ behind = name :: queue) :
    ∃ level' ≥ level, ∃ front' behind', queue = front' ++ behind' ∧
      table.Frontier origin level' seen (name :: front') behind' := by
  cases front with
  | nil =>
      obtain rfl : behind = name :: queue := whole
      exact ⟨level + 1, Nat.le_succ level, queue, [], (List.append_nil queue).symm, frontier.advance⟩
  | cons first rest =>
      obtain ⟨rfl, rfl⟩ : first = name ∧ rest ++ behind = queue := by simpa using whole
      exact ⟨level, Nat.le_refl level, rest, behind, rfl, frontier⟩

theorem skip (frontier : table.Frontier origin level seen (name :: front) behind)
    (known : name ∈ seen) : table.Frontier origin level seen front behind where
  nearer := frontier.nearer
  onLevel := by
    intro other reached
    rcases frontier.onLevel other reached with old | queued
    · exact .inl old
    · rcases List.mem_cons.mp queued with rfl | queued
      · exact .inl known
      · exact .inr queued
  reached := fun other queued => frontier.reached other (List.mem_cons_of_mem _ queued)
  further := frontier.further
  closed := by
    intro other old next listed
    have place := frontier.closed other old next listed
    rw [List.mem_cons] at place
    rcases place with old | (rfl | queued) | later
    · exact .inl old
    · exact .inl known
    · exact .inr (.inl queued)
    · exact .inr (.inr later)

theorem visit (frontier : table.Frontier origin level seen (name :: front) behind) :
    table.Frontier origin level (name :: seen) front (behind ++ table.supertypeNames name) where
  nearer := fun steps less other reached =>
    List.mem_cons_of_mem _ (frontier.nearer steps less other reached)
  onLevel := by
    intro other reached
    have place := frontier.onLevel other reached
    simp only [List.mem_cons] at place ⊢
    tauto
  reached := fun other queued => frontier.reached other (List.mem_cons_of_mem _ queued)
  further := by
    intro other queued
    rcases List.mem_append.mp queued with later | added
    · exact frontier.further other later
    · exact .step (frontier.reached name List.mem_cons_self) added
  closed := by
    intro other old next listed
    rcases List.mem_cons.mp old with rfl | old
    · exact .inr (.inr (List.mem_append_right _ listed))
    · have place := frontier.closed other old next listed
      simp only [List.mem_cons, List.mem_append] at place ⊢
      tauto

/-- A name that is visited lies on the level of the walk. -/
theorem distance_eq (frontier : table.Frontier origin level seen (name :: front) behind)
    (fresh : name ∉ seen) : table.distance origin name = level := by
  have reached := frontier.reached name List.mem_cons_self
  have nearest := reachesIn_distance (reaches_iff.mpr ⟨level, reached⟩)
  apply Nat.le_antisymm (distance_le reached)
  by_contra less
  exact fresh (frontier.nearer _ (Nat.lt_of_not_le less) name nearest)

/-- Nothing is visited before something nearer. -/
theorem ascending (frontier : table.Frontier origin level seen front behind) :
    (∀ name ∈ table.walk seen (front ++ behind), level ≤ table.distance origin name) ∧
      (table.walk seen (front ++ behind)).Pairwise fun first second =>
        table.distance origin first ≤ table.distance origin second := by
  generalize whole : front ++ behind = queue
  induction seen, queue using walk_induction table generalizing level front behind with
  | done => simp
  | skip seen name queue known ih =>
      obtain ⟨level', later, front', behind', rfl, frontier'⟩ := frontier.exists_front whole
      obtain ⟨bounded, ordered⟩ := ih (frontier'.skip known) rfl
      rw [walk_seen known]
      exact ⟨fun other visited => Nat.le_trans later (bounded other visited), ordered⟩
  | visit seen name queue fresh ih =>
      obtain ⟨level', later, front', behind', rfl, frontier'⟩ := frontier.exists_front whole
      obtain ⟨bounded, ordered⟩ := ih frontier'.visit (List.append_assoc ..).symm
      rw [walk_fresh fresh, List.forall_mem_cons, List.pairwise_cons, frontier'.distance_eq fresh]
      exact ⟨⟨later, fun other visited => Nat.le_trans later (bounded other visited)⟩,
        bounded, ordered⟩

end Frontier

/-- What a walk over the supertypes of a declaration finds, and what is told from it. -/
structure NearestFirst (table : SymbolTable) (decl : Declaration) : Prop where
  nodup : (table.ancestors decl).Nodup
  /-- The ancestors are what is reached over supertypes, the declaration itself excepted. -/
  mem_iff : ∀ name, name ∈ table.ancestors decl ↔
    name ≠ decl.qualifiedName ∧ table.Reaches decl.qualifiedName name
  ascending : (table.ancestors decl).Pairwise fun first second =>
    table.distance decl.qualifiedName first ≤ table.distance decl.qualifiedName second
  unmatched_iff : ∀ candidates, table.firstMatch decl candidates = none ↔
    ∀ candidate ∈ candidates, candidate ∉ table.ancestors decl
  /-- A match is a nearest candidate, at its first place among them. -/
  matched : ∀ candidates place, table.firstMatch decl candidates = some place →
    ∃ name ∈ table.ancestors decl, candidates[place]? = some name ∧
      (∀ earlier < place, candidates[earlier]? ≠ some name) ∧
      ∀ candidate ∈ candidates, candidate ∈ table.ancestors decl →
        table.distance decl.qualifiedName name ≤ table.distance decl.qualifiedName candidate

theorem ancestors_of_mem {decl : Declaration} (member : decl ∈ table.declarations) :
    table.ancestors decl =
      table.walk [decl.qualifiedName] (table.supertypeNames decl.qualifiedName) := by
  rw [ancestors, supertypeNames_of_mem member]

theorem nearestFirst {decl : Declaration} (member : decl ∈ table.declarations) :
    table.NearestFirst decl := by
  have ordered := (Frontier.start table decl.qualifiedName).ascending.2
  rw [List.append_nil, ← ancestors_of_mem member] at ordered
  constructor
  case nodup => exact nodup_walk
  case mem_iff => exact fun name => by rw [ancestors_of_mem member, mem_walk_iff]
  case ascending => exact ordered
  case unmatched_iff => exact fun candidates => firstMatch_eq_none_iff
  case matched =>
    intro candidates place found
    obtain ⟨before, name, after, split, absent, here, first⟩ := exists_of_firstMatch found
    rw [split] at ordered ⊢
    refine ⟨name, by simp, here, first, fun candidate listed ancestor => ?_⟩
    rcases List.mem_append.mp ancestor with earlier | behind
    · exact absurd earlier (absent candidate listed)
    · rcases List.mem_cons.mp behind with rfl | behind
      · exact Nat.le_refl _
      · exact List.rel_of_pairwise_cons (List.pairwise_append.mp ordered).2.1 behind

/-- A type answers to the names that are reached from its own. -/
theorem typeImplements_iff_reaches {type : TypeRef} {contract : String} :
    table.typeImplements type contract = true ↔ table.Reaches type.name contract := by
  rw [typeImplements, typeFirstMatch, firstMatch_isSome_iff, lineage_eq, List.mem_cons,
    mem_walk_iff]
  by_cases same : contract = type.name
  · exact iff_of_true (.inl same) (same ▸ .refl)
  · simp [same]

/-- A type answers to its own name, and to what is reached from its declaration. -/
theorem typeImplements_iff {type : TypeRef} {contract : String} :
    table.typeImplements type contract = true ↔ type.name = contract ∨
      ∃ decl, table.resolve type.name = some decl ∧ table.Reaches decl.qualifiedName contract := by
  rw [typeImplements_iff_reaches]
  constructor
  · intro reached
    rcases Relation.ReflTransGen.cases_head reached with same | ⟨next, listed, -⟩
    · exact .inl same
    · cases found : table.resolve type.name with
      | none => simp [supertypeNames, found] at listed
      | some decl => exact .inr ⟨decl, rfl, by rwa [name_of_resolve found]⟩
  · rintro (rfl | ⟨decl, found, reached⟩)
    · exact .refl
    · rwa [name_of_resolve found] at reached

/-- The ancestors of a declaration are its closure under supertypes, nearest first, and matches among
    them are nearest ones. -/
theorem nearestFirst_of_table (table : SymbolTable) :
    (∀ decl ∈ table.declarations, table.NearestFirst decl) ∧
      ∀ type contract, table.typeImplements type contract = true ↔ type.name = contract ∨
        ∃ decl, table.resolve type.name = some decl ∧
          table.Reaches decl.qualifiedName contract :=
  ⟨fun _ => nearestFirst, fun _ _ => typeImplements_iff⟩

section Cycle

private def cycleStart : Declaration :=
  { qualifiedName := "app.Home"
    supertypes := [.named "app.Base", .named Contract.activity, .named "app.Base"] }

/-- Classes whose supertypes lead back to the first of them, and one that is not declared. -/
private def cycle : SymbolTable :=
  .ofList [cycleStart,
    { qualifiedName := "app.Base", supertypes := [.named "app.Home", .named "app.Core"] },
    { qualifiedName := "app.Core", supertypes := [.named "app.Home", .named Contract.provider] }]

/-- Of two contracts the nearer one is met first, though it is the later candidate. -/
theorem nearestFirst_of_cycle :
    cycleStart ∈ cycle.declarations ∧ cycle.NearestFirst cycleStart ∧
      cycle.ancestors cycleStart =
        ["app.Base", Contract.activity, "app.Core", Contract.provider] ∧
      cycle.firstMatch cycleStart [Contract.provider, Contract.activity] = some 1 ∧
      cycle.typeImplements (.named "app.Base") Contract.provider = true := by
  have member : cycleStart ∈ cycle.declarations := by decide +kernel
  have base : cycle.supertypeNames "app.Base" = ["app.Home", "app.Core"] := by decide +kernel
  have core : cycle.supertypeNames "app.Core" = ["app.Home", Contract.provider] := by
    decide +kernel
  have home : cycle.supertypeNames "app.Home" = ["app.Base", Contract.activity, "app.Base"] := by
    decide +kernel
  have activity : cycle.supertypeNames Contract.activity = [] := by decide +kernel
  have provider : cycle.supertypeNames Contract.provider = [] := by decide +kernel
  rw [Contract.activity] at activity
  rw [Contract.provider] at provider
  have walked : cycle.ancestors cycleStart =
      ["app.Base", Contract.activity, "app.Core", Contract.provider] := by
    rw [ancestors_of_mem member]
    change cycle.walk ["app.Home"] (cycle.supertypeNames "app.Home") = _
    simp [walk_fresh, walk_seen, home, base, core, activity, provider, Contract.activity,
      Contract.provider]
  obtain ⟨nearest, types⟩ := nearestFirst_of_table cycle
  refine ⟨member, nearest cycleStart member, walked, ?_, ?_⟩
  · rw [SymbolTable.firstMatch, walked]
    decide
  · refine (types _ _).mpr (.inr ⟨_, rfl, .tail (.single (b := "app.Core") ?_) ?_⟩)
    · change _ ∈ cycle.supertypeNames "app.Base"
      rw [base]
      decide
    · rw [core]
      decide

end Cycle

end SymbolTable

end RouteAtlas
