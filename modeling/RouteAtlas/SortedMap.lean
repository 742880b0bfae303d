/-! # Ordered maps

A finite map held as its entries in strictly ascending key order. The order is part of the type, so
a map has one representation and two maps with the same entries are equal.
-/

namespace RouteAtlas

/-- Keys whose strict order is linear. -/
class LinearKey (κ : Type) [LT κ] : Prop where
  /-- Of two different keys one is below the other. -/
  trichotomy : ∀ a b : κ, a < b ∨ a = b ∨ b < a
  trans : ∀ {a b c : κ}, a < b → b < c → a < c
  /-- No key is below itself. -/
  irrefl : ∀ a : κ, ¬ a < a

instance : LinearKey String where
  trichotomy a b := by
    by_cases below : a < b
    · exact .inl below
    · by_cases above : b < a
      · exact .inr (.inr above)
      · exact .inr (.inl (String.le_antisymm (String.not_lt.mp above) (String.not_lt.mp below)))
  trans := String.lt_trans
  irrefl := String.lt_irrefl

instance : LinearKey Int where
  trichotomy := Int.lt_trichotomy
  trans := Int.lt_trans
  irrefl := Int.lt_irrefl

/-- Entries in strictly ascending key order. -/
structure SortedMap (κ ν : Type) [LT κ] where
  entries : List (κ × ν)
  /-- Each key is below every later one. -/
  ascending : entries.Pairwise fun a b => a.1 < b.1

namespace SortedMap

variable {κ ν ω : Type} [LT κ]

/-- Put `value` under `key` into ascending entries, in place of what the key held. -/
def insertEntry [DecidableLT κ] (key : κ) (value : ν) : List (κ × ν) → List (κ × ν)
  | [] => [(key, value)]
  | entry :: rest =>
    if key < entry.1 then (key, value) :: entry :: rest
    else if entry.1 < key then entry :: insertEntry key value rest
    else (key, value) :: rest

theorem mem_insertEntry [DecidableLT κ] {key : κ} {value : ν} {entries : List (κ × ν)}
    {entry : κ × ν} (member : entry ∈ insertEntry key value entries) :
    entry = (key, value) ∨ entry ∈ entries := by
  induction entries with
  | nil => simpa [insertEntry] using member
  | cons head rest ih =>
    rw [insertEntry] at member
    split at member
    · simpa using member
    · split at member
      · rcases List.mem_cons.mp member with rfl | later
        · simp
        · rcases ih later with same | old
          · exact .inl same
          · exact .inr (List.mem_cons_of_mem _ old)
      · rcases List.mem_cons.mp member with rfl | later
        · simp
        · exact .inr (List.mem_cons_of_mem _ later)

theorem insertEntry_ascending [DecidableLT κ] [LinearKey κ] (key : κ) (value : ν)
    {entries : List (κ × ν)} (ascending : entries.Pairwise fun a b => a.1 < b.1) :
    (insertEntry key value entries).Pairwise fun a b => a.1 < b.1 := by
  induction entries with
  | nil => simp [insertEntry]
  | cons head rest ih =>
    obtain ⟨headBelow, restAscending⟩ := List.pairwise_cons.mp ascending
    rw [insertEntry]
    split
    · rename_i below
      refine List.pairwise_cons.mpr ⟨fun entry member => ?_, ascending⟩
      rcases List.mem_cons.mp member with rfl | later
      · exact below
      · exact LinearKey.trans below (headBelow entry later)
    · rename_i notBelow
      split
      · rename_i above
        refine List.pairwise_cons.mpr ⟨fun entry member => ?_, ih restAscending⟩
        rcases mem_insertEntry member with rfl | later
        · exact above
        · exact headBelow entry later
      · rename_i notAbove
        have same : key = head.1 := by
          rcases LinearKey.trichotomy key head.1 with below | same | above
          · exact absurd below notBelow
          · exact same
          · exact absurd above notAbove
        exact List.pairwise_cons.mpr
          ⟨fun entry member => same ▸ headBelow entry member, restAscending⟩

/-- The map without entries. -/
def empty : SortedMap κ ν := ⟨[], .nil⟩

instance : EmptyCollection (SortedMap κ ν) := ⟨empty⟩

instance : Inhabited (SortedMap κ ν) := ⟨empty⟩

instance [DecidableEq κ] [DecidableEq ν] : DecidableEq (SortedMap κ ν) := fun a b =>
  if same : a.entries = b.entries then
    isTrue (by cases a; cases b; simpa using same)
  else
    isFalse fun equal => same (equal ▸ rfl)

/-- Put `value` under `key`, in place of what the key held. -/
def insert [DecidableLT κ] [LinearKey κ] (map : SortedMap κ ν) (key : κ) (value : ν) :
    SortedMap κ ν :=
  ⟨insertEntry key value map.entries, insertEntry_ascending key value map.ascending⟩

/-- The map of the given entries; of entries with one key the last stays. -/
def ofList [DecidableLT κ] [LinearKey κ] (entries : List (κ × ν)) : SortedMap κ ν :=
  entries.foldl (fun map entry => map.insert entry.1 entry.2) empty

/-- The value held under `key`. -/
def get? [DecidableEq κ] (map : SortedMap κ ν) (key : κ) : Option ν :=
  (map.entries.find? fun entry => decide (entry.1 = key)).map Prod.snd

def keys (map : SortedMap κ ν) : List κ :=
  map.entries.map Prod.fst

def values (map : SortedMap κ ν) : List ν :=
  map.entries.map Prod.snd

def size (map : SortedMap κ ν) : Nat :=
  map.entries.length

/-- Whether there is no entry. -/
def isEmpty (map : SortedMap κ ν) : Bool :=
  map.entries.isEmpty

/-- Keep the entries that `keep` accepts. -/
def filter (map : SortedMap κ ν) (keep : κ → ν → Bool) : SortedMap κ ν :=
  ⟨map.entries.filter fun entry => keep entry.1 entry.2, map.ascending.filter _⟩

/-- Replace each value by what `f` makes of it, and drop the entries where that is nothing. -/
def filterMap (map : SortedMap κ ν) (f : κ → ν → Option ω) : SortedMap κ ω where
  entries := map.entries.filterMap fun entry => (f entry.1 entry.2).map (entry.1, ·)
  ascending := by
    refine map.ascending.filterMap _ fun a b below a' ha b' hb => ?_
    obtain ⟨_, _, rfl⟩ := Option.map_eq_some_iff.mp ha
    obtain ⟨_, _, rfl⟩ := Option.map_eq_some_iff.mp hb
    exact below

/-- The keys of a map are strictly ascending, hence distinct. -/
theorem keys_ascending (map : SortedMap κ ν) : map.keys.Pairwise (· < ·) :=
  List.pairwise_map.mpr map.ascending

@[ext] theorem ext {a b : SortedMap κ ν} (same : a.entries = b.entries) : a = b := by
  cases a; cases b; simpa using same

end SortedMap

/-- The members of a list, each once, ascending. -/
def sortedDistinct (names : List String) : List String :=
  (SortedMap.ofList (names.map fun name => (name, ()))).keys

end RouteAtlas
