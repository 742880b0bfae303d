import Mathlib.Data.List.Nodup
import RouteAtlas.SortedMap

/-! # Laws of ordered maps

A map is determined by what it holds under each key. The operations are described by what they do
to a key, so that nothing further on looks at the order of entries.
-/

namespace RouteAtlas

namespace SortedMap

variable {κ ν ω : Type} [LT κ]

/-- A map is what is left of it if only a map with entries counts. -/
theorem getD_unless_isEmpty (map : SortedMap κ ν) :
    (if map.isEmpty then none else some map).getD .empty = map := by
  split
  · rename_i vacant
    exact ext (List.isEmpty_iff.mp vacant).symm
  · rfl

theorem unless_isEmpty_eq_some {map other : SortedMap κ ν} :
    (if map.isEmpty then none else some map) = some other ↔ map = other ∧ other.isEmpty = false := by
  constructor
  · intro made
    split at made
    · simp at made
    · rename_i kept
      cases made
      exact ⟨rfl, by simpa using kept⟩
  · rintro ⟨rfl, kept⟩
    simp [kept]

theorem nodup_keys [LinearKey κ] (map : SortedMap κ ν) : map.keys.Nodup :=
  map.keys_ascending.imp fun {a b} below (same : a = b) =>
    LinearKey.irrefl b (by rwa [same] at below)

section Lookup

variable [DecidableEq κ]

theorem get?_eq_none_iff {map : SortedMap κ ν} {key : κ} :
    map.get? key = none ↔ ∀ value, (key, value) ∉ map.entries := by
  simp [get?, List.find?_eq_none]
  exact ⟨fun absent value held => absent key value held rfl,
    fun absent _ value held same => absent value (same ▸ held)⟩

@[simp] theorem get?_empty (key : κ) : (empty : SortedMap κ ν).get? key = none := rfl

variable [LinearKey κ]

/-- In ascending entries the first entry with a key is the only one. -/
private theorem find?_entries {entries : List (κ × ν)}
    (ascending : entries.Pairwise fun a b => a.1 < b.1) {key : κ} {value : ν} :
    (entries.find? fun entry => decide (entry.1 = key)).map Prod.snd = some value ↔
      (key, value) ∈ entries := by
  induction entries with
  | nil => simp
  | cons head rest ih =>
      obtain ⟨headBelow, restAscending⟩ := List.pairwise_cons.mp ascending
      obtain ⟨first, held⟩ := head
      by_cases same : first = key
      · subst same
        have absent : (first, value) ∉ rest := fun later =>
          LinearKey.irrefl first (headBelow _ later)
        simp [absent, eq_comm]
      · have different : ¬ (key, value) = (first, held) := fun equal =>
          same (congrArg Prod.fst equal).symm
        simpa [List.find?_cons, same, different] using ih restAscending

theorem get?_eq_some_iff {map : SortedMap κ ν} {key : κ} {value : ν} :
    map.get? key = some value ↔ (key, value) ∈ map.entries :=
  find?_entries map.ascending

theorem get?_filterMap (map : SortedMap κ ν) (f : κ → ν → Option ω) (key : κ) :
    (map.filterMap f).get? key = (map.get? key).bind (f key) := by
  ext value
  rw [get?_eq_some_iff, Option.bind_eq_some_iff]
  simp only [filterMap, List.mem_filterMap, Option.map_eq_some_iff, Prod.mk.injEq]
  constructor
  · rintro ⟨⟨_, held⟩, member, _, made, rfl, rfl⟩
    exact ⟨held, get?_eq_some_iff.mpr member, made⟩
  · rintro ⟨held, found, made⟩
    exact ⟨(key, held), get?_eq_some_iff.mp found, value, made, rfl, rfl⟩

end Lookup

section Insertion

variable [DecidableEq κ] [DecidableLT κ] [LinearKey κ]

theorem get?_insert (map : SortedMap κ ν) (key other : κ) (value : ν) :
    (map.insert key value).get? other = if other = key then some value else map.get? other := by
  simp only [insert, get?]
  induction map.entries with
  | nil => by_cases same : other = key <;> simp [insertEntry, same, eq_comm]
  | cons head rest ih =>
      rw [insertEntry]
      split
      · by_cases same : other = key <;> simp [List.find?_cons, same, eq_comm]
      · rename_i notBelow
        split
        · rename_i above
          have different : head.1 ≠ key := fun same =>
            LinearKey.irrefl key (by simpa [same] using above)
          by_cases here : head.1 = other
          · have : other ≠ key := fun same => different (here.trans same)
            simp [here, this]
          · simpa [List.find?_cons, here] using ih
        · rename_i notAbove
          have same : head.1 = key := by
            rcases LinearKey.trichotomy key head.1 with below | same | above
            · exact absurd below notBelow
            · exact same.symm
            · exact absurd above notAbove
          by_cases here : other = key <;> simp [same, here, eq_comm]

@[simp] theorem get?_insert_self (map : SortedMap κ ν) (key : κ) (value : ν) :
    (map.insert key value).get? key = some value := by
  simp [get?_insert]

theorem mem_insert_iff {map : SortedMap κ ν} {key other : κ} {value held : ν} :
    (other, held) ∈ (map.insert key value).entries ↔
      (other = key ∧ held = value) ∨ (other ≠ key ∧ (other, held) ∈ map.entries) := by
  rw [← get?_eq_some_iff, ← get?_eq_some_iff, get?_insert]
  by_cases same : other = key <;> simp [same, eq_comm]

/-- Of entries put one after another a key holds the last of its own, or else what it held. -/
private theorem get?_foldl_insert (entries : List (κ × ν)) (map : SortedMap κ ν) (key : κ) :
    (entries.foldl (fun map entry => map.insert entry.1 entry.2) map).get? key =
      ((entries.reverse.find? fun entry => decide (entry.1 = key)).map Prod.snd).or
        (map.get? key) := by
  induction entries generalizing map with
  | nil => rfl
  | cons entry rest ih =>
      rw [List.foldl_cons, ih, List.reverse_cons, List.find?_append, get?_insert]
      cases rest.reverse.find? fun entry => decide (entry.1 = key) with
      | some later => rfl
      | none =>
          by_cases here : key = entry.1
          · simp [here]
          · simp [here, Ne.symm here]

theorem get?_ofList (entries : List (κ × ν)) (key : κ) :
    (ofList entries).get? key =
      (entries.reverse.find? fun entry => decide (entry.1 = key)).map Prod.snd := by
  rw [ofList, get?_foldl_insert]
  simp

theorem mem_keys_ofList {entries : List (κ × ν)} {key : κ} :
    key ∈ (ofList entries).keys ↔ key ∈ entries.map Prod.fst := by
  have held : key ∈ (ofList entries).keys ↔ (ofList entries).get? key ≠ none := by
    simp [keys, get?_eq_none_iff]
  rw [held, get?_ofList]
  simp [List.find?_eq_none]

theorem mem_of_mem_ofList {entries : List (κ × ν)} {entry : κ × ν}
    (member : entry ∈ (ofList entries).entries) : entry ∈ entries := by
  have found := get?_eq_some_iff.mpr member
  rw [get?_ofList, Option.map_eq_some_iff] at found
  obtain ⟨last, given, held⟩ := found
  have here := List.find?_some given
  have written := List.mem_of_find?_eq_some given
  simp only [decide_eq_true_eq] at here
  rwa [List.mem_reverse, show last = entry from Prod.ext here held] at written

theorem get?_ofList_eq_some_iff {entries : List (κ × ν)} (distinct : (entries.map Prod.fst).Nodup)
    {key : κ} {value : ν} : (ofList entries).get? key = some value ↔ (key, value) ∈ entries := by
  rw [get?_ofList, Option.map_eq_some_iff]
  constructor
  · rintro ⟨⟨_, _⟩, found, rfl⟩
    have here := List.find?_some found
    simp only [decide_eq_true_eq] at here
    subst here
    simpa using List.mem_of_find?_eq_some found
  · intro member
    cases found : entries.reverse.find? fun entry => decide (entry.1 = key) with
    | none =>
        simp only [List.find?_eq_none, List.mem_reverse, decide_eq_true_eq] at found
        exact absurd rfl (found _ member)
    | some other =>
        have here := List.find?_some found
        have held := List.mem_of_find?_eq_some found
        simp only [decide_eq_true_eq] at here
        simp only [List.mem_reverse] at held
        obtain rfl : other = (key, value) := List.inj_on_of_nodup_map distinct held member here
        exact ⟨_, rfl, rfl⟩

theorem entries_ofList_perm {entries : List (κ × ν)} (distinct : (entries.map Prod.fst).Nodup) :
    (ofList entries).entries.Perm entries := by
  have ascending : (ofList entries).entries.Nodup :=
    (ofList entries).ascending.imp fun {a b} below (same : a = b) =>
      LinearKey.irrefl b.1 (by rwa [same] at below)
  refine (List.perm_ext_iff_of_nodup ascending (List.Nodup.of_map _ distinct)).mpr ?_
  rintro ⟨key, value⟩
  rw [← get?_eq_some_iff, get?_ofList_eq_some_iff distinct]

end Insertion

section Extensionality

variable [LinearKey κ]

/-- Ascending entries are determined by their members. -/
private theorem entries_eq_of_mem_iff {a b : List (κ × ν)}
    (aAscending : a.Pairwise fun x y => x.1 < y.1) (bAscending : b.Pairwise fun x y => x.1 < y.1)
    (same : ∀ entry, entry ∈ a ↔ entry ∈ b) : a = b := by
  induction a generalizing b with
  | nil =>
      cases b with
      | nil => rfl
      | cons y ys => exact absurd ((same y).mpr (by simp)) (by simp)
  | cons x xs ih =>
      cases b with
      | nil => exact absurd ((same x).mp (by simp)) (by simp)
      | cons y ys =>
          obtain ⟨xBelow, xsAscending⟩ := List.pairwise_cons.mp aAscending
          obtain ⟨yBelow, ysAscending⟩ := List.pairwise_cons.mp bAscending
          have heads : x = y := by
            rcases List.mem_cons.mp ((same x).mp (by simp)) with equal | xLater
            · exact equal
            · rcases List.mem_cons.mp ((same y).mpr (by simp)) with equal | yLater
              · exact equal.symm
              · exact absurd (LinearKey.trans (yBelow x xLater) (xBelow y yLater))
                  (LinearKey.irrefl _)
          subst heads
          refine congrArg (x :: ·) (ih xsAscending ysAscending fun entry => ?_)
          constructor
          · intro member
            rcases List.mem_cons.mp ((same entry).mp (List.mem_cons_of_mem _ member)) with rfl | later
            · exact absurd (xBelow _ member) (LinearKey.irrefl _)
            · exact later
          · intro member
            rcases List.mem_cons.mp ((same entry).mpr (List.mem_cons_of_mem _ member)) with rfl | later
            · exact absurd (yBelow _ member) (LinearKey.irrefl _)
            · exact later

theorem ext_get? [DecidableEq κ] {a b : SortedMap κ ν} (same : ∀ key, a.get? key = b.get? key) :
    a = b := by
  refine ext (entries_eq_of_mem_iff a.ascending b.ascending ?_)
  rintro ⟨key, value⟩
  rw [← get?_eq_some_iff, ← get?_eq_some_iff, same key]

/-- If all but one key contribute nothing, a traversal of the entries gives what that key does. -/
theorem flatMap_entries [DecidableEq κ] (map : SortedMap κ ν) (key : κ) (f : κ → ν → List ω)
    (others : ∀ entry ∈ map.entries, entry.1 ≠ key → f entry.1 entry.2 = []) :
    (map.entries.flatMap fun entry => f entry.1 entry.2) =
      ((map.get? key).map (f key)).getD [] := by
  obtain ⟨entries, ascending⟩ := map
  simp only [get?] at others ⊢
  induction entries with
  | nil => rfl
  | cons head rest ih =>
      obtain ⟨headBelow, restAscending⟩ := List.pairwise_cons.mp ascending
      have restOthers : ∀ entry ∈ rest, entry.1 ≠ key → f entry.1 entry.2 = [] :=
        fun entry member => others entry (List.mem_cons_of_mem _ member)
      by_cases same : head.1 = key
      · have nothing : rest.flatMap (fun entry => f entry.1 entry.2) = [] := by
          refine List.flatMap_eq_nil_iff.mpr fun entry member => restOthers entry member ?_
          intro again
          have below := headBelow entry member
          rw [same, again] at below
          exact LinearKey.irrefl key below
        simp [same, nothing]
      · simpa [List.find?_cons, same, others head (by simp) same] using
          ih restAscending restOthers

end Extensionality

end SortedMap

theorem mem_sortedDistinct {name : String} {names : List String} :
    name ∈ sortedDistinct names ↔ name ∈ names := by
  rw [sortedDistinct, SortedMap.mem_keys_ofList, List.map_map]
  exact iff_of_eq (congrArg (name ∈ ·) (List.map_id names))

end RouteAtlas
