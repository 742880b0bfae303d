import Mathlib.Logic.Relation
import RouteAtlas.Proofs.Classification.Ancestors

/-! # What decides a classification

Of the names that a walk visits only those count that lead on to a contract. Where two tables agree
on the supertypes that do, they visit the same names that count, in the same order.
-/

namespace RouteAtlas

/-- The contracts that classes and types are classified by. -/
def contracts : List String :=
  routeContracts.map Prod.fst ++
    [Contract.interceptor, Contract.parcelable, Contract.serializable]

/-- Names that are no candidates do not matter to a match. -/
theorem firstMatch_filter {lineage candidates : List String} {keep : String → Bool}
    (kept : ∀ name ∈ candidates, keep name = true) :
    firstMatch (lineage.filter keep) candidates = firstMatch lineage candidates := by
  induction lineage with
  | nil => rfl
  | cons name rest ih =>
      cases counts : keep name with
      | true =>
          rw [List.filter_cons_of_pos counts, firstMatch, List.findSome?_cons, firstMatch,
            List.findSome?_cons]
          cases candidates.findIdx? (· == name) with
          | none => exact ih
          | some place => rfl
      | false =>
          have absent : candidates.findIdx? (· == name) = none := by
            rw [List.findIdx?_eq_none_iff]
            intro candidate member
            rw [beq_eq_false_iff_ne]
            rintro rfl
            rw [kept candidate member] at counts
            cases counts
          rw [List.filter_cons_of_neg (by rw [counts]; exact Bool.false_ne_true), ih]
          simp only [firstMatch, List.findSome?_cons, absent]

namespace SymbolTable

variable {table other : SymbolTable} {keep : String → Bool} {seen queue : List String}
  {name : String}

/-- A name is another one or, over one or more steps, among its supertypes. -/
def Reaches (table : SymbolTable) : String → String → Prop :=
  Relation.ReflTransGen fun name next => next ∈ table.supertypeNames name

/-- What is reached from a name of a list that holds the supertypes of its names is in the list. -/
theorem mem_of_reaches {start : String} {closed : List String}
    (holds : ∀ name ∈ closed, table.supertypeNames name ⊆ closed)
    (reached : table.Reaches start name) (member : start ∈ closed) : name ∈ closed := by
  induction reached with
  | refl => exact member
  | tail _ next ih => exact holds _ ih next

theorem exists_reaches_of_mem_walk (visited : name ∈ table.walk seen queue) :
    ∃ start ∈ queue, table.Reaches start name := by
  revert visited
  induction seen, queue using walk_induction table with
  | done => simp
  | skip seen first queue known ih =>
      rw [walk_seen known]
      intro visited
      obtain ⟨start, queued, reached⟩ := ih visited
      exact ⟨start, List.mem_cons_of_mem _ queued, reached⟩
  | visit seen first queue fresh ih =>
      rw [walk_fresh fresh, List.mem_cons]
      intro visited
      rcases visited with rfl | later
      · exact ⟨name, List.mem_cons_self, .refl⟩
      · obtain ⟨start, queued, reached⟩ := ih later
        rcases List.mem_append.mp queued with before | added
        · exact ⟨start, List.mem_cons_of_mem _ before, reached⟩
        · exact ⟨first, List.mem_cons_self, .head added reached⟩

/-- The declarations with those of their supertypes whose names are kept. -/
def restrict (table : SymbolTable) (keep : String → Bool) : SymbolTable where
  declarations := table.declarations.map fun decl =>
    { decl with supertypes := decl.supertypes.filter fun type => keep type.name }
  distinct := by
    rw [List.map_map]
    exact table.distinct

theorem supertypeNames_restrict :
    (table.restrict keep).supertypeNames name = (table.supertypeNames name).filter keep := by
  simp only [supertypeNames, resolve, restrict, List.find?_map, Function.comp_def]
  cases table.declarations.find? fun decl => decide (decl.qualifiedName = name) with
  | none => rfl
  | some decl =>
      simp only [Option.map_some, Option.getD_some, List.filter_map]
      rfl

/-- The kept names are visited as if there were no others, as long as no other leads to them. -/
theorem filter_walk
    (closed : ∀ name, keep name = false → (table.supertypeNames name).filter keep = []) :
    (table.walk seen queue).filter keep =
      (table.restrict keep).walk (seen.filter keep) (queue.filter keep) := by
  induction seen, queue using walk_induction table with
  | done => simp
  | skip seen name queue known ih =>
      rw [walk_seen known, ih]
      cases kept : keep name with
      | true =>
          have known : name ∈ seen.filter keep := List.mem_filter.mpr ⟨known, kept⟩
          rw [List.filter_cons_of_pos kept, walk_seen known]
      | false => rw [List.filter_cons_of_neg (by simp [kept])]
  | visit seen name queue fresh ih =>
      rw [walk_fresh fresh]
      cases kept : keep name with
      | true =>
          have fresh : name ∉ seen.filter keep := fun known => fresh (List.mem_filter.mp known).1
          rw [List.filter_cons_of_pos kept, ih, List.filter_cons_of_pos kept,
            List.filter_cons_of_pos kept, walk_fresh fresh, supertypeNames_restrict,
            List.filter_append]
      | false =>
          -- What is queued because of this name is left out as well.
          have dropped : ¬keep name = true := by simp [kept]
          rw [List.filter_cons_of_neg dropped, ih, List.filter_cons_of_neg dropped,
            List.filter_cons_of_neg dropped, List.filter_append, closed name kept, List.append_nil]

/-- Tables that agree on the kept supertypes of the names that one of them visits visit the same
    kept names. -/
theorem filter_walk_congr {others : List String}
    (closed : ∀ name, keep name = false → (table.supertypeNames name).filter keep = [])
    (otherClosed : ∀ name, keep name = false → (other.supertypeNames name).filter keep = [])
    (queues : queue.filter keep = others.filter keep)
    (same : ∀ name ∈ table.walk seen queue,
      (table.supertypeNames name).filter keep = (other.supertypeNames name).filter keep) :
    (table.walk seen queue).filter keep = (other.walk seen others).filter keep := by
  rw [filter_walk otherClosed, ← queues, filter_walk closed]
  apply walk_congr
  intro name visited
  rw [← filter_walk closed] at visited
  rw [supertypeNames_restrict, supertypeNames_restrict]
  exact same name (List.mem_filter.mp visited).1

theorem lineage_eq (table : SymbolTable) (type : TypeRef) :
    table.lineage type =
      type.name :: table.walk [type.name] (table.supertypeNames type.name) := by
  unfold lineage supertypeNames
  cases found : table.resolve type.name with
  | none => simp
  | some decl =>
      simp only [Option.map_some, Option.getD_some, ancestors]
      rw [name_of_resolve found]

end SymbolTable

end RouteAtlas
