import Mathlib.Data.Nat.Find
import Mathlib.Order.Bounds.Basic
import RouteAtlas.Proofs.SymbolTable.Suggestions

/-! # Which classes are suggested

A class is suggested for its qualified name, and the first class of a simple name for that name as
well, at the smaller of the two distances. A later class of the same simple name is suggested for
its qualified name alone.
-/

namespace RouteAtlas

namespace SymbolTable

variable {table : SymbolTable} {name : String} {decl : Declaration} {failure : NotFound}

/-- The distances at which a class is near by either of its names. -/
def offered (name : String) (decl : Declaration) : Set Nat :=
  {distance | Near name decl.qualifiedName distance ∨ Near name decl.simpleName distance}

/-- The distances at which a class is near by the names that are looked at: its qualified name, and
    its simple name if it is the first class that has it. -/
def consulted (table : SymbolTable) (name : String) (decl : Declaration) : Set Nat :=
  {distance | Near name decl.qualifiedName distance ∨
    table.Leads decl ∧ Near name decl.simpleName distance}

/-- The distances at which a class is suggested. -/
def listedAt (suggestions : List Suggestion) (decl : Declaration) : Set Nat :=
  {distance | ⟨decl.qualifiedName, distance⟩ ∈ suggestions}

/-- The least of some distances is that of all, if none of the others is below all of them. -/
theorem isLeast_iff_of_reached {few many : Set Nat} {distance : Nat} (subset : few ⊆ many)
    (reached : ∀ far ∈ many, ∃ near ∈ few, near ≤ far) :
    IsLeast few distance ↔ IsLeast many distance := by
  constructor
  · rintro ⟨member, least⟩
    refine ⟨subset member, fun far farIn => ?_⟩
    obtain ⟨near, nearIn, below⟩ := reached far farIn
    exact (least nearIn).trans below
  · rintro ⟨member, least⟩
    obtain ⟨near, nearIn, below⟩ := reached distance member
    have same : near = distance := le_antisymm below (least (subset nearIn))
    exact ⟨same ▸ nearIn, fun other otherIn => least (subset otherIn)⟩

theorem mem_ranked_iff_consulted (declared : decl ∈ table.declarations) {distance : Nat} :
    ⟨decl.qualifiedName, distance⟩ ∈ table.ranked name ↔ distance ∈ table.consulted name decl := by
  rw [mem_ranked]
  constructor
  · rintro ⟨other, otherIn, named, near⟩
    have same : decl = other := List.inj_on_of_nodup_map table.distinct declared otherIn named
    exact same ▸ near
  · exact fun near => ⟨decl, declared, rfl, near⟩

theorem listedAt_subset (declared : decl ∈ table.declarations) :
    listedAt (table.suggestions name) decl ⊆ table.consulted name decl := by
  intro distance listed
  exact (mem_ranked_iff_consulted declared).mp ((dropRepeats_sublist _).subset listed)

theorem listedAt_reached (declared : decl ∈ table.declarations) :
    ∀ far ∈ table.consulted name decl, ∃ near ∈ listedAt (table.suggestions name) decl,
      near ≤ far := by
  intro far consulted
  obtain ⟨kept, keptIn, own, nearer⟩ := exists_mem_dropRepeats (byDistance_nearestFirst _)
    ((mem_ranked_iff_consulted declared).mpr consulted)
  have here : kept = ⟨decl.qualifiedName, kept.distance⟩ :=
    congrArg (fun candidate => Suggestion.mk candidate kept.distance) own
  exact ⟨kept.distance, here ▸ keptIn, nearer⟩

/-- Nothing is lost by a name that is not looked at, if the class is no farther by the other one. -/
theorem isLeast_consulted_iff :
    (∀ distance, IsLeast (table.consulted name decl) distance ↔
        IsLeast (offered name decl) distance) ↔
      table.Leads decl ∨ ∀ far, Near name decl.simpleName far →
        ∃ near ≤ far, Near name decl.qualifiedName near := by
  have subset : table.consulted name decl ⊆ offered name decl := by
    rintro distance (near | ⟨-, near⟩)
    · exact .inl near
    · exact .inr near
  constructor
  · intro same
    by_cases leads : table.Leads decl
    · exact .inl leads
    refine .inr fun far close => ?_
    classical
    have inhabited : ∃ distance, distance ∈ offered name decl := ⟨far, .inr close⟩
    have least : IsLeast (offered name decl) (Nat.find inhabited) :=
      ⟨Nat.find_spec inhabited, fun _ member => Nat.find_min' inhabited member⟩
    rcases ((same _).mpr least).1 with near | ⟨first, -⟩
    · exact ⟨_, least.2 (.inr close), near⟩
    · exact absurd first leads
  · rintro (leads | covered) distance
    · refine isLeast_iff_of_reached subset ?_
      rintro far (near | near)
      · exact ⟨far, .inl near, le_rfl⟩
      · exact ⟨far, .inr ⟨leads, near⟩, le_rfl⟩
    · refine isLeast_iff_of_reached subset ?_
      rintro far (near | near)
      · exact ⟨far, .inl near, le_rfl⟩
      · obtain ⟨nearer, below, close⟩ := covered far near
        exact ⟨nearer, .inl close, below⟩

/-- Which classes are suggested for a name, and how near. -/
structure CompletenessLaw (table : SymbolTable) (name : String) (listed : List Suggestion) :
    Prop where
  /-- If the name is a simple name, these are the classes that have it, in their order. -/
  homonyms : (∃ decl ∈ table.declarations, decl.simpleName = name) →
    listed = (table.declarations.filter fun decl => decide (decl.simpleName = name)).map
      fun decl => ⟨decl.qualifiedName, 0⟩
  /-- A text is near at one distance. -/
  oneDistance : ∀ {text distance other}, Near name text distance → Near name text other →
    distance = other
  listed_iff : (∀ decl ∈ table.declarations, decl.simpleName ≠ name) →
    ∀ decl ∈ table.declarations,
    ((listedAt listed decl).Nonempty ↔ (table.consulted name decl).Nonempty)
  nearest_iff : (∀ decl ∈ table.declarations, decl.simpleName ≠ name) →
    ∀ decl ∈ table.declarations, ∀ distance,
    (IsLeast (listedAt listed decl) distance ↔ IsLeast (table.consulted name decl) distance)
  /-- When a class is suggested for either of its names, at the smaller of the two distances. -/
  whole_iff : (∀ decl ∈ table.declarations, decl.simpleName ≠ name) →
    ∀ decl ∈ table.declarations,
    ((∀ distance, IsLeast (listedAt listed decl) distance ↔ IsLeast (offered name decl) distance) ↔
      table.Leads decl ∨ ∀ far, Near name decl.simpleName far →
        ∃ near ≤ far, Near name decl.qualifiedName near)

theorem completenessLaw_of_missed (missed : table.find name = .error failure) :
    CompletenessLaw table name failure.suggestions := by
  obtain ⟨-, -, rfl⟩ := find_eq_error_iff.mp missed
  have nearest : ∀ decl ∈ table.declarations, ∀ distance,
      (IsLeast (listedAt (table.suggestions name) decl) distance ↔
        IsLeast (table.consulted name decl) distance) := fun decl declared distance =>
    isLeast_iff_of_reached (listedAt_subset declared) (listedAt_reached declared)
  constructor
  case homonyms =>
    rintro ⟨decl, declared, named⟩
    have known : table.withSimpleName name ≠ [] :=
      List.ne_nil_of_mem (mem_withSimpleName.mpr ⟨declared, named⟩)
    simp only [known, if_false]
    rfl
  case oneDistance => exact Near.unique
  case listed_iff =>
    intro unknown decl declared
    simp only [withSimpleName_eq_nil_iff.mpr unknown, if_true]
    constructor
    · exact fun inhabited => inhabited.mono (listedAt_subset declared)
    · rintro ⟨far, consulted⟩
      obtain ⟨near, listed, -⟩ := listedAt_reached declared far consulted
      exact ⟨near, listed⟩
  case nearest_iff =>
    intro unknown
    simpa only [withSimpleName_eq_nil_iff.mpr unknown, if_true] using nearest
  case whole_iff =>
    intro unknown decl declared
    simp only [withSimpleName_eq_nil_iff.mpr unknown, if_true, nearest decl declared]
    exact isLeast_consulted_iff

section Homonyms

private def homes : SymbolTable :=
  .ofList [{ qualifiedName := "app.first.Home" }, { qualifiedName := "app.second.Home" }]

private theorem find_homes : homes.find "Hone" = .error ⟨"Hone", [⟨"app.first.Home", 1⟩]⟩ := by
  have ranked : homes.ranked "Hone" = [⟨"app.first.Home", 1⟩, ⟨"app.first.Home", 1⟩] :=
    @ranked_of_byDistance homes "Hone" [] [⟨"Home", 1⟩, ⟨"Home", 1⟩] (by decide +kernel)
      (by decide +kernel) (by decide) (by decide +kernel)
  rw [find_of_unknown (by decide +kernel) (by decide +kernel), ranked]
  rfl

/-- Two classes of one simple name, which is near. -/
theorem completenessLaw_of_homes :
    homes.find "Hone" = .error ⟨"Hone", [⟨"app.first.Home", 1⟩]⟩ ∧
      CompletenessLaw homes "Hone" [⟨"app.first.Home", 1⟩] :=
  ⟨find_homes, completenessLaw_of_missed find_homes⟩

/-- The second class of a simple name is not suggested for it. -/
theorem homonym_forgotten :
    homes.find "Hone" = .error ⟨"Hone", [⟨"app.first.Home", 1⟩]⟩ ∧
      ¬∀ (table : SymbolTable) (name : String) (failure : NotFound),
        table.find name = .error failure →
          (∀ decl ∈ table.declarations, decl.simpleName ≠ name) → ∀ decl ∈ table.declarations,
            ((∃ near ∈ failure.suggestions, near.candidate = decl.qualifiedName) ↔
              ∃ distance, Near name decl.qualifiedName distance ∨
                Near name decl.simpleName distance) := by
  refine ⟨find_homes, fun complete => ?_⟩
  have both := complete homes "Hone" _ find_homes (by decide +kernel)
    { qualifiedName := "app.second.Home" } (by decide +kernel)
  have near : Near "Hone" "Home" 1 := near_iff.mpr (by decide +kernel)
  obtain ⟨listed, member, named⟩ := both.mpr ⟨1, .inr near⟩
  rw [List.mem_singleton.mp member] at named
  exact absurd named (by decide)

end Homonyms

end SymbolTable

end RouteAtlas
