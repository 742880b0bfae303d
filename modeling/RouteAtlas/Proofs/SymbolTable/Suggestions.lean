import Mathlib.Data.List.Destutter
import RouteAtlas.Proofs.SymbolTable.Ordered

/-! # Suggestions for a missed name

Suggestions are ranked by distance, and of those that follow one another for one class the first one
is kept. A class that is hit more than once is suggested once only if nothing stands between its
hits in the ranking.
-/

namespace RouteAtlas

section Repeats

variable {α : Type} [DecidableEq α]

theorem mem_destutter' {first : α} {rest : List α} {a : α} :
    a ∈ rest.destutter' (· ≠ ·) first ↔ a ∈ first :: rest := by
  induction rest generalizing first with
  | nil => rfl
  | cons next rest ih =>
      by_cases same : first = next
      · subst same
        rw [List.destutter'_cons_neg _ (by simp), ih]
        simp
      · rw [List.destutter'_cons_pos _ same, List.mem_cons, ih]
        exact List.mem_cons.symm

theorem nodup_destutter'_iff {first : α} {rest : List α} :
    (rest.destutter' (· ≠ ·) first).Nodup ↔
      ∀ a b, [a, b, a].Sublist (first :: rest) → b = a := by
  induction rest generalizing first with
  | nil =>
      refine iff_of_true (List.nodup_singleton first) fun a b triple => ?_
      exact absurd triple.length_le (by simp)
  | cons next rest ih =>
      by_cases same : first = next
      · subst same
        rw [List.destutter'_cons_neg _ (by simp), ih]
        constructor
        · intro together a b triple
          rcases List.sublist_cons_iff.mp triple with later | ⟨pair, split, later⟩
          · exact together a b later
          · obtain ⟨rfl, rfl⟩ := List.cons.inj split
            rcases List.sublist_cons_iff.mp later with last | ⟨single, halves, -⟩
            · exact together a b (last.cons_cons a)
            · exact (List.cons.inj halves).1
        · exact fun together a b triple => together a b (triple.cons first)
      · rw [List.destutter'_cons_pos _ same, List.nodup_cons, mem_destutter', ih]
        -- A triple lies in the rest, or begins with the first element, which then comes again.
        constructor
        · rintro ⟨absent, together⟩ a b triple
          rcases List.sublist_cons_iff.mp triple with later | ⟨pair, split, later⟩
          · exact together a b later
          · obtain ⟨rfl, rfl⟩ := List.cons.inj split
            exact absurd (later.subset (by simp)) absent
        · intro together
          refine ⟨fun member => ?_, fun a b triple => together a b (triple.cons first)⟩
          have inRest := (List.mem_cons.mp member).resolve_left same
          have triple : [first, next, first].Sublist (first :: next :: rest) :=
            ((List.singleton_sublist.mpr inRest).cons_cons next).cons_cons first
          exact same (together first next triple).symm

end Repeats

/-- Suggestions in non-decreasing order of distance. -/
def ByDistance (ranked : List Suggestion) : Prop :=
  ranked.Pairwise fun first second => first.distance ≤ second.distance

instance (ranked : List Suggestion) : Decidable (ByDistance ranked) :=
  inferInstanceAs (Decidable (ranked.Pairwise _))

/-- All hits of a class stand in one place of the ranking. -/
def StandTogether (ranked : List Suggestion) : Prop :=
  ∀ first between, [first, between, first].Sublist (ranked.map Suggestion.candidate) →
    between = first

section Ranking

variable {ranked : List Suggestion} {near : Suggestion}

theorem dropRepeats_eq (ranked : List Suggestion) :
    dropRepeats ranked =
      ranked.destutter fun first second => first.candidate ≠ second.candidate := by
  cases ranked with
  | nil => rfl
  | cons first rest =>
      rw [List.destutter_cons', dropRepeats]
      induction rest generalizing first with
      | nil => rfl
      | cons next rest ih =>
          unfold dropRepeats.after
          by_cases same : next.candidate = first.candidate
          · rw [if_pos same, List.destutter'_cons, if_neg (not_not_intro same.symm), ih]
          · rw [if_neg same, List.destutter'_cons, if_pos (Ne.symm same), ih]

theorem candidates_dropRepeats (ranked : List Suggestion) :
    (dropRepeats ranked).map Suggestion.candidate =
      (ranked.map Suggestion.candidate).destutter (· ≠ ·) := by
  rw [dropRepeats_eq]
  exact List.map_destutter fun _ _ _ _ => Iff.rfl

theorem nodup_dropRepeats_iff :
    ((dropRepeats ranked).map Suggestion.candidate).Nodup ↔ StandTogether ranked := by
  rw [candidates_dropRepeats, StandTogether]
  cases ranked.map Suggestion.candidate with
  | nil => exact iff_of_true List.nodup_nil fun a b triple => absurd triple.length_le (by simp)
  | cons first rest => exact nodup_destutter'_iff

theorem dropRepeats_sublist (ranked : List Suggestion) : (dropRepeats ranked).Sublist ranked := by
  rw [dropRepeats_eq]
  exact List.destutter_sublist _ ranked

/-- What a class is first listed with, it is nearest with. -/
theorem exists_mem_dropRepeats (ascending : ByDistance ranked) (member : near ∈ ranked) :
    ∃ kept ∈ dropRepeats ranked,
      kept.candidate = near.candidate ∧ kept.distance ≤ near.distance := by
  rw [dropRepeats_eq]
  cases ranked with
  | nil => cases member
  | cons first rest =>
      rw [List.destutter_cons']
      induction rest generalizing first near with
      | nil => exact ⟨near, member, rfl, Nat.le_refl _⟩
      | cons next rest ih =>
          obtain ⟨below, later⟩ := List.pairwise_cons.mp ascending
          rw [List.destutter'_cons]
          split
          case isTrue =>
            rcases List.mem_cons.mp member with rfl | inRest
            · exact ⟨near, List.mem_cons_self, rfl, Nat.le_refl _⟩
            · obtain ⟨kept, keptIn, nearer⟩ := ih next later inRest
              exact ⟨kept, List.mem_cons_of_mem _ keptIn, nearer⟩
          case isFalse same =>
            -- What is dropped here is no nearer than what goes before it.
            have without := ascending.sublist ((List.sublist_cons_self next rest).cons_cons first)
            rcases List.mem_cons.mp member with rfl | inRest
            · exact ih near without List.mem_cons_self
            · rcases List.mem_cons.mp inRest with rfl | inRest
              · obtain ⟨kept, keptIn, own, nearer⟩ := ih first without List.mem_cons_self
                exact ⟨kept, keptIn, own.trans (not_not.mp same),
                  nearer.trans (below near List.mem_cons_self)⟩
              · exact ih first without (List.mem_cons_of_mem _ inRest)

theorem byDistance_nearestFirst (suggestions : List Suggestion) :
    ByDistance (nearestFirst suggestions) := by
  have trans : ∀ a b c : Suggestion, decide (a.distance ≤ b.distance) = true →
      decide (b.distance ≤ c.distance) = true → decide (a.distance ≤ c.distance) = true := by
    intro a b c
    simp only [decide_eq_true_eq]
    exact Nat.le_trans
  have total : ∀ a b : Suggestion,
      (decide (a.distance ≤ b.distance) || decide (b.distance ≤ a.distance)) = true := by
    intro a b
    simp only [Bool.or_eq_true, decide_eq_true_eq]
    exact Nat.le_total _ _
  exact (List.pairwise_mergeSort trans total suggestions).imp of_decide_eq_true

theorem nearestFirst_of_byDistance (ascending : ByDistance ranked) : nearestFirst ranked = ranked :=
  List.mergeSort_of_pairwise (ascending.imp decide_eq_true)

theorem mem_nearestFirst {suggestions : List Suggestion} :
    near ∈ nearestFirst suggestions ↔ near ∈ suggestions :=
  (List.mergeSort_perm _ _).mem_iff

end Ranking

section Near

variable {name text : String} {limit distance : Nat} {near : Suggestion}

theorem candidate_of_suggest? (found : suggest? name limit text = some near) :
    near.candidate = text := by
  unfold suggest? at found
  grind

theorem mem_suggestSimilar {candidates : List String} :
    near ∈ suggestSimilar name candidates limit ↔
      near.candidate ∈ candidates ∧ suggest? name limit near.candidate = some near := by
  rw [suggestSimilar, mem_nearestFirst, List.mem_filterMap]
  constructor
  · rintro ⟨candidate, member, found⟩
    rw [candidate_of_suggest? found]
    exact ⟨member, found⟩
  · exact fun ⟨member, found⟩ => ⟨near.candidate, member, found⟩

/-- A text alone is suggested for a name, at a distance. -/
def Near (name text : String) (distance : Nat) : Prop :=
  ⟨text, distance⟩ ∈ suggestSimilar name [text] SymbolTable.suggestionLimit

theorem near_iff :
    Near name text distance ↔
      suggest? name SymbolTable.suggestionLimit text = some ⟨text, distance⟩ := by
  rw [Near, mem_suggestSimilar, List.mem_singleton]
  exact and_iff_right rfl

theorem Near.unique {other : Nat} (one : Near name text distance) (another : Near name text other) :
    distance = other := by
  have same := Option.some.inj ((near_iff.mp one).symm.trans (near_iff.mp another))
  exact congrArg Suggestion.distance same

/-- Whether a text is suggested does not depend on what else there is. -/
theorem mem_suggestSimilar_iff_near {candidates : List String} :
    near ∈ suggestSimilar name candidates SymbolTable.suggestionLimit ↔
      near.candidate ∈ candidates ∧ Near name near.candidate near.distance := by
  rw [mem_suggestSimilar, near_iff]

end Near

namespace SymbolTable

variable {table : SymbolTable} {name : String} {near : Suggestion} {failure : NotFound}

/-- What is suggested for a simple name that is near: the first declaration that has it. -/
def firstBearer? (table : SymbolTable) (near : Suggestion) : Option Suggestion :=
  (table.declarations.find? fun decl => decide (decl.simpleName = near.candidate)).map
    fun decl => ⟨decl.qualifiedName, near.distance⟩

/-- The first declarations with the simple names that are near, in order of distance. -/
def simpleHits (table : SymbolTable) (name : String) : List Suggestion :=
  (suggestSimilar name (table.declarations.map Declaration.simpleName) suggestionLimit).filterMap
    table.firstBearer?

/-- All hits in the order in which they are listed before repeats are dropped. -/
def ranked (table : SymbolTable) (name : String) : List Suggestion :=
  RouteAtlas.nearestFirst
    (suggestSimilar name table.names suggestionLimit ++ table.simpleHits name)

theorem suggestions_eq (table : SymbolTable) (name : String) :
    table.suggestions name = dropRepeats (table.ranked name) := rfl

/-- A declaration that no earlier one shares its simple name with. -/
def Leads (table : SymbolTable) (decl : Declaration) : Prop :=
  table.declarations.find? (fun other => decide (other.simpleName = decl.simpleName)) = some decl

theorem mem_simpleHits :
    near ∈ table.simpleHits name ↔ ∃ decl ∈ table.declarations,
      near.candidate = decl.qualifiedName ∧
        table.Leads decl ∧ Near name decl.simpleName near.distance := by
  rw [simpleHits, List.mem_filterMap]
  constructor
  · rintro ⟨hit, hitIn, made⟩
    obtain ⟨decl, found, rfl⟩ := Option.map_eq_some_iff.mp made
    have named : decl.simpleName = hit.candidate := by simpa using List.find?_some found
    obtain ⟨-, close⟩ := mem_suggestSimilar_iff_near.mp hitIn
    rw [← named] at found close
    exact ⟨decl, List.mem_of_find?_eq_some found, rfl, found, close⟩
  · rintro ⟨decl, declared, named, leads, close⟩
    refine ⟨⟨decl.simpleName, near.distance⟩,
      mem_suggestSimilar_iff_near.mpr ⟨List.mem_map_of_mem declared, close⟩, ?_⟩
    rw [Leads] at leads
    rw [firstBearer?, leads, Option.map_some, ← named]

theorem mem_ranked :
    near ∈ table.ranked name ↔ ∃ decl ∈ table.declarations, near.candidate = decl.qualifiedName ∧
      (Near name decl.qualifiedName near.distance ∨
        table.Leads decl ∧ Near name decl.simpleName near.distance) := by
  rw [ranked, mem_nearestFirst, List.mem_append, mem_suggestSimilar_iff_near, mem_simpleHits, names,
    List.mem_map]
  constructor
  · rintro (⟨⟨decl, declared, named⟩, close⟩ | ⟨decl, declared, named, short⟩)
    · exact ⟨decl, declared, named.symm, .inl (named ▸ close)⟩
    · exact ⟨decl, declared, named, .inr short⟩
  · rintro ⟨decl, declared, named, close | short⟩
    · exact .inl ⟨⟨decl, declared, named.symm⟩, named ▸ close⟩
    · exact .inr ⟨decl, declared, named, short⟩

/-- How suggestions for a name are listed. -/
structure RankingLaw (table : SymbolTable) (name : String) (listed : List Suggestion) : Prop where
  ascending : ByDistance listed
  declared : ∀ near ∈ listed, near.candidate ∈ table.names
  /-- No class is suggested twice in a row. -/
  apart : listed.IsChain fun first second => first.candidate ≠ second.candidate
  /-- No class is suggested twice at all exactly if the name is a simple name, or the hits of each
      class stand together. -/
  once_iff : (listed.map Suggestion.candidate).Nodup ↔
    table.withSimpleName name ≠ [] ∨ StandTogether (table.ranked name)

theorem rankingLaw_of_missed (missed : table.find name = .error failure) :
    RankingLaw table name failure.suggestions := by
  obtain ⟨-, -, rfl⟩ := find_eq_error_iff.mp missed
  by_cases unknown : table.withSimpleName name = []
  · simp only [unknown, if_true]
    exact {
      ascending := (byDistance_nearestFirst _).sublist (dropRepeats_sublist _)
      declared := by
        intro near member
        obtain ⟨decl, declared, named, -⟩ := mem_ranked.mp ((dropRepeats_sublist _).subset member)
        exact named ▸ List.mem_map_of_mem declared
      apart := by
        rw [suggestions_eq, dropRepeats_eq]
        exact List.isChain_destutter _ _
      once_iff := by
        rw [suggestions_eq, nodup_dropRepeats_iff]
        simp [unknown] }
  · simp only [unknown, if_false]
    have distinct := nodup_withSimpleName table name
    have candidates : ((table.withSimpleName name).map fun decl =>
        (⟨decl.qualifiedName, 0⟩ : Suggestion)).map Suggestion.candidate =
          (table.withSimpleName name).map Declaration.qualifiedName := List.map_map
    exact {
      ascending := List.pairwise_map.mpr
        ((List.pairwise_map.mp distinct).imp fun _ => Nat.le_refl 0)
      declared := by
        intro near member
        obtain ⟨decl, named, rfl⟩ := List.mem_map.mp member
        exact List.mem_map_of_mem (mem_withSimpleName.mp named).1
      apart := by
        refine List.Pairwise.isChain (List.pairwise_map.mpr ?_)
        exact List.pairwise_map.mp distinct
      once_iff := by
        rw [candidates]
        exact iff_of_true distinct (.inl unknown) }

section Computed

variable {qualified simple : List Suggestion}

/-- Hits that come in order of distance need not be sorted. -/
theorem ranked_of_byDistance
    (near : table.names.filterMap (suggest? name suggestionLimit) = qualified)
    (nearSimple : (table.declarations.map Declaration.simpleName).filterMap
      (suggest? name suggestionLimit) = simple)
    (ascending : ByDistance simple)
    (together : ByDistance (qualified ++ simple.filterMap table.firstBearer?)) :
    table.ranked name = qualified ++ simple.filterMap table.firstBearer? := by
  rw [ranked, simpleHits, suggestSimilar, suggestSimilar, near, nearSimple,
    nearestFirst_of_byDistance ascending,
    nearestFirst_of_byDistance (together.sublist (List.sublist_append_left _ _)),
    nearestFirst_of_byDistance together]

theorem find_of_unknown (absent : name ∉ table.names) (unknown : table.withSimpleName name = []) :
    table.find name = .error ⟨name, dropRepeats (table.ranked name)⟩ :=
  find_eq_error_iff.mpr ⟨absent, by simp [unknown], by simp [unknown, suggestions_eq]⟩

end Computed

section Repeated

private def homePages : SymbolTable :=
  .ofList [{ qualifiedName := "app.HomePage" }, { qualifiedName := "app.HomeMenu" }]

private def homePagesListed : List Suggestion :=
  [⟨"app.HomePage", 1⟩, ⟨"app.HomeMenu", 1⟩, ⟨"app.HomePage", 1⟩, ⟨"app.HomeMenu", 1⟩]

private theorem find_homePages : homePages.find "Home" = .error ⟨"Home", homePagesListed⟩ := by
  have ranked : homePages.ranked "Home" = homePagesListed :=
    @ranked_of_byDistance homePages "Home" [⟨"app.HomePage", 1⟩, ⟨"app.HomeMenu", 1⟩]
      [⟨"HomePage", 1⟩, ⟨"HomeMenu", 1⟩] (by decide +kernel) (by decide +kernel) (by decide)
      (by decide +kernel)
  rw [find_of_unknown (by decide +kernel) (by decide +kernel), ranked]
  rfl

/-- Two classes that are hit twice each, all at one distance. -/
theorem rankingLaw_of_homePages :
    homePages.find "Home" = .error ⟨"Home", homePagesListed⟩ ∧
      RankingLaw homePages "Home" homePagesListed :=
  ⟨find_homePages, rankingLaw_of_missed find_homePages⟩

/-- A class is suggested again where another one stands between its hits. -/
theorem homePages_repeated :
    homePages.find "Home" = .error ⟨"Home", homePagesListed⟩ ∧
      ¬∀ (table : SymbolTable) (name : String) (failure : NotFound),
        table.find name = .error failure →
          (failure.suggestions.map Suggestion.candidate).Nodup :=
  ⟨find_homePages, fun once => absurd (once homePages "Home" _ find_homePages) (by decide)⟩

end Repeated

end SymbolTable

end RouteAtlas
