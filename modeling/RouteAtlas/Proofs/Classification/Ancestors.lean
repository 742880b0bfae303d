import RouteAtlas.Classification

/-! # What ancestors depend on

Visiting a name looks at nothing but the names of its supertypes. Two tables that agree on those for
every name that one of them visits have the same ancestors, and classify alike.
-/

namespace RouteAtlas.SymbolTable

/-- The names that are visited because of a name: none if the table does not know it. -/
def supertypeNames (table : SymbolTable) (name : String) : List String :=
  ((table.resolve name).map fun decl => decl.supertypes.map TypeRef.name).getD []

@[simp] theorem walk_nil (table : SymbolTable) (seen : List String) : table.walk seen [] = [] := by
  rw [walk]

theorem walk_seen {table : SymbolTable} {seen queue : List String} {name : String}
    (known : name ∈ seen) : table.walk seen (name :: queue) = table.walk seen queue := by
  rw [walk, dif_pos known]

theorem walk_fresh {table : SymbolTable} {seen queue : List String} {name : String}
    (fresh : name ∉ seen) :
    table.walk seen (name :: queue) =
      name :: table.walk (name :: seen) (queue ++ table.supertypeNames name) := by
  rw [walk, dif_neg fresh]
  split
  · rename_i decl found
    simp [supertypeNames, found]
  · rename_i unknown
    simp [supertypeNames, unknown]

/-- The recursion of a walk: the queue ends, or its first name is dropped, or visited. -/
theorem walk_induction (table : SymbolTable) {motive : List String → List String → Prop}
    (done : ∀ seen, motive seen [])
    (skip : ∀ seen name queue, name ∈ seen → motive seen queue → motive seen (name :: queue))
    (visit : ∀ seen name queue, name ∉ seen →
      motive (name :: seen) (queue ++ table.supertypeNames name) → motive seen (name :: queue))
    (seen queue : List String) : motive seen queue := by
  induction seen, queue using SymbolTable.walk.induct table with
  | case1 seen => exact done seen
  | case2 seen name queue known ih => exact skip seen name queue known ih
  | case3 seen name queue fresh decl found ih =>
      exact visit seen name queue fresh (by simpa [supertypeNames, found] using ih)
  | case4 seen name queue fresh unknown ih =>
      exact visit seen name queue fresh (by simpa [supertypeNames, unknown] using ih)

/-- Tables that agree on every name that one of them visits make the same visits. -/
theorem walk_congr {table other : SymbolTable} {seen queue : List String}
    (same : ∀ name ∈ table.walk seen queue,
      table.supertypeNames name = other.supertypeNames name) :
    table.walk seen queue = other.walk seen queue := by
  revert same
  induction seen, queue using walk_induction table with
  | done => simp
  | skip seen name queue known ih =>
      rw [walk_seen known, walk_seen known]
      exact ih
  | visit seen name queue fresh ih =>
      rw [walk_fresh fresh, walk_fresh fresh]
      intro same
      have here := same name List.mem_cons_self
      rw [← here, ih fun later visited => same later (List.mem_cons_of_mem _ visited)]

theorem ancestors_of_unknown {table : SymbolTable} {decl : Declaration} {name : String}
    (single : decl.supertypes = [.named name]) (other : name ≠ decl.qualifiedName)
    (unknown : table.resolve name = none) : table.ancestors decl = [name] := by
  have nothing : table.supertypeNames name = [] := by
    rw [supertypeNames, unknown]
    rfl
  have fresh : name ∉ [decl.qualifiedName] := fun member => other (List.mem_singleton.mp member)
  rw [ancestors, single]
  change table.walk _ [name] = _
  rw [walk_fresh fresh, nothing, List.append_nil, walk_nil]

/-- A class with one supertype that the table does not know answers to that name alone. -/
theorem firstMatch_of_unknown {table : SymbolTable} {decl : Declaration} {name : String}
    (single : decl.supertypes = [.named name]) (other : name ≠ decl.qualifiedName)
    (unknown : table.resolve name = none) (candidates : List String) :
    table.firstMatch decl candidates = candidates.findIdx? (· == name) := by
  rw [SymbolTable.firstMatch, ancestors_of_unknown single other unknown, RouteAtlas.firstMatch,
    List.findSome?_singleton]

end RouteAtlas.SymbolTable
