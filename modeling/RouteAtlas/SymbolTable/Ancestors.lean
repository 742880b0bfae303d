import RouteAtlas.SymbolTable.Basic

/-! # Ancestors of a declaration

The supertypes of a declaration, theirs, and so on, nearest first. A name that the table does not
know is an ancestor without supertypes of its own; each name is visited once, so cycles end.
-/

namespace RouteAtlas

namespace SymbolTable

/-- How many declarations have a name that is not among those seen. -/
def unseen (table : SymbolTable) (seen : List String) : Nat :=
  table.declarations.countP fun decl => decide (decl.qualifiedName ∉ seen)

theorem unseen_cons_le (table : SymbolTable) (name : String) (seen : List String) :
    table.unseen (name :: seen) ≤ table.unseen seen :=
  List.countP_mono_left fun decl _ fresh => by simp at fresh ⊢; exact fresh.2

theorem unseen_cons_lt {table : SymbolTable} {name : String} {seen : List String}
    {decl : Declaration} (found : table.resolve name = some decl) (fresh : name ∉ seen) :
    table.unseen (name :: seen) < table.unseen seen := by
  have member := mem_of_resolve found
  have named := name_of_resolve found
  unfold unseen
  generalize table.declarations = decls at member
  induction decls with
  | nil => simp at member
  | cons d rest ih =>
    simp only [List.countP_cons]
    have restLe : rest.countP (fun decl => decide (decl.qualifiedName ∉ name :: seen)) ≤
        rest.countP fun decl => decide (decl.qualifiedName ∉ seen) :=
      List.countP_mono_left fun decl _ free => by simp at free ⊢; exact free.2
    rcases List.mem_cons.mp member with rfl | later
    · simp [named, fresh]
      simpa using Nat.lt_succ_of_le restLe
    · have restLt := ih later
      by_cases first : d.qualifiedName ∉ name :: seen
      · have : d.qualifiedName ∉ seen := fun old => first (List.mem_cons_of_mem _ old)
        simp [first, this]
        simpa using restLt
      · simp only [first, decide_false, Bool.false_eq_true, if_false, Nat.add_zero]
        omega

/-- Visit the names of a queue breadth first, skipping those seen before. -/
def walk (table : SymbolTable) (seen : List String) : List String → List String
  | [] => []
  | name :: queue =>
    if _fresh : name ∈ seen then walk table seen queue
    else
      match _found : table.resolve name with
      | some decl => name :: walk table (name :: seen) (queue ++ decl.supertypes.map TypeRef.name)
      | none => name :: walk table (name :: seen) queue
termination_by queue => (table.unseen seen, queue.length)
decreasing_by
  · exact Prod.Lex.right _ (by simp)
  · exact Prod.Lex.left _ _ (unseen_cons_lt _found _fresh)
  · rcases Nat.lt_or_eq_of_le (unseen_cons_le table name seen) with less | same
    · exact Prod.Lex.left _ _ less
    · rw [same]; exact Prod.Lex.right _ (by simp)

/-- Names of all supertypes of a declaration, direct and indirect, nearest first. The declaration
    itself is not among them. -/
def ancestors (table : SymbolTable) (decl : Declaration) : List String :=
  table.walk [decl.qualifiedName] (decl.supertypes.map TypeRef.name)

/-- Names that a type answers to, nearest first: its own, then the ancestors of its declaration. -/
def lineage (table : SymbolTable) (type : TypeRef) : List String :=
  type.name :: ((table.resolve type.name).map table.ancestors).getD []

end SymbolTable

/-- Place among the candidates of the first name of a lineage that is one of them. -/
def firstMatch (lineage candidates : List String) : Option Nat :=
  lineage.findSome? fun name => candidates.findIdx? (· == name)

end RouteAtlas
