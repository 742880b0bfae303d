import RouteAtlas.Declaration.Basic

/-! # Symbol tables

The declarations of one round, found by qualified name. They keep the order in which their names
were first inserted; a declaration with a known name takes the place of the earlier one.
-/

namespace RouteAtlas

/-- Declarations with distinct names, in order of first insertion. -/
structure SymbolTable where
  declarations : List Declaration
  /-- No two declarations have the same name. -/
  distinct : (declarations.map Declaration.qualifiedName).Nodup

namespace SymbolTable

/-- Put a declaration in the place of the one with its name, or at the end. -/
def place (decl : Declaration) : List Declaration → List Declaration
  | [] => [decl]
  | d :: rest =>
    if d.qualifiedName = decl.qualifiedName then decl :: rest else d :: place decl rest

theorem names_place (decl : Declaration) (decls : List Declaration) :
    (place decl decls).map Declaration.qualifiedName =
      if decl.qualifiedName ∈ decls.map Declaration.qualifiedName
      then decls.map Declaration.qualifiedName
      else decls.map Declaration.qualifiedName ++ [decl.qualifiedName] := by
  induction decls with
  | nil => simp [place]
  | cons d rest ih =>
    by_cases same : d.qualifiedName = decl.qualifiedName
    · simp [place, same]
    · simp only [place, same, if_false, List.map_cons, List.mem_cons, ih, Ne.symm same, false_or]
      split <;> simp

/-- The table without declarations. -/
def empty : SymbolTable := ⟨[], .nil⟩

def insert (table : SymbolTable) (decl : Declaration) : SymbolTable where
  declarations := place decl table.declarations
  distinct := by
    rw [names_place]
    split
    · exact table.distinct
    · rename_i fresh
      exact List.nodup_append.mpr ⟨table.distinct, by simp, by
        intro name known other single same
        simp only [List.mem_singleton] at single
        exact fresh (single ▸ same ▸ known)⟩

/-- Insert declarations one after another. -/
def extend (table : SymbolTable) (decls : List Declaration) : SymbolTable :=
  decls.foldl insert table

/-- The table of the given declarations. -/
def ofList (decls : List Declaration) : SymbolTable :=
  empty.extend decls

/-- The declaration with the given name. -/
def resolve (table : SymbolTable) (name : String) : Option Declaration :=
  table.declarations.find? fun decl => decide (decl.qualifiedName = name)

def names (table : SymbolTable) : List String :=
  table.declarations.map Declaration.qualifiedName

def size (table : SymbolTable) : Nat :=
  table.declarations.length

/-- The declarations annotated as routes, in order. -/
def routes (table : SymbolTable) : List Declaration :=
  table.declarations.filter fun decl => decl.marks.route.isSome

/-- The declarations annotated as interceptors, in order. -/
def hooks (table : SymbolTable) : List Declaration :=
  table.declarations.filter fun decl => decl.marks.hook.isSome

/-- The injected properties with their classes, in order. -/
def injected (table : SymbolTable) : List (Declaration × Property) :=
  table.declarations.flatMap fun decl => decl.injected.map (decl, ·)

theorem mem_of_resolve {table : SymbolTable} {name : String} {decl : Declaration}
    (found : table.resolve name = some decl) : decl ∈ table.declarations :=
  List.mem_of_find?_eq_some found

theorem name_of_resolve {table : SymbolTable} {name : String} {decl : Declaration}
    (found : table.resolve name = some decl) : decl.qualifiedName = name := by
  simpa using List.find?_some found

end SymbolTable

end RouteAtlas
