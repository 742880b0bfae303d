import Mathlib.Data.List.Induction
import RouteAtlas.Proofs.SortedMap
import RouteAtlas.Proofs.SymbolTable
import RouteAtlas.SymbolTable.Search

/-! # Tables as ordered maps

However a table was filled, its names stand in the order in which each of them first came, and a
name stands for the declaration that came last under it. An index from names to places, kept beside
the declarations, stays in step with the table. What a look-up finds follows from the names alone.
-/

namespace RouteAtlas

namespace SymbolTable

variable {table : SymbolTable} {decl : Declaration} {decls : List Declaration} {name : String}

theorem ofList_concat (decls : List Declaration) (decl : Declaration) :
    ofList (decls ++ [decl]) = (ofList decls).insert decl :=
  List.foldl_append

theorem extend_ofList (earlier decls : List Declaration) :
    (ofList earlier).extend decls = ofList (earlier ++ decls) :=
  List.foldl_append.symm

theorem names_insert (table : SymbolTable) (decl : Declaration) :
    (table.insert decl).names =
      if decl.qualifiedName ∈ table.names then table.names
      else table.names ++ [decl.qualifiedName] :=
  names_place decl table.declarations

theorem mem_names_ofList : name ∈ (ofList decls).names ↔ name ∈ declarationNames decls := by
  rw [← not_iff_not, ← resolve_eq_none_iff, resolve_ofList_eq_none_iff]

/-- Names stand in the order in which they first came. -/
theorem ordered_ofList (decls : List Declaration) :
    (ofList decls).names.Pairwise fun first second =>
      (declarationNames decls).idxOf first < (declarationNames decls).idxOf second := by
  induction decls using List.reverseRecOn with
  | nil => exact .nil
  | append_singleton earlier decl ih =>
      have grown : declarationNames (earlier ++ [decl]) =
          declarationNames earlier ++ [decl.qualifiedName] := List.map_append
      -- What came before keeps its place among all that came.
      have before : (ofList earlier).names.Pairwise fun first second =>
          (declarationNames (earlier ++ [decl])).idxOf first <
            (declarationNames (earlier ++ [decl])).idxOf second := by
        refine ih.imp_of_mem fun {first second} firstIn secondIn below => ?_
        rwa [grown, List.idxOf_append_of_mem (mem_names_ofList.mp firstIn),
          List.idxOf_append_of_mem (mem_names_ofList.mp secondIn)]
      rw [ofList_concat, names_insert]
      split
      case isTrue => exact before
      case isFalse fresh =>
        refine List.pairwise_append.mpr ⟨before, List.pairwise_singleton .., ?_⟩
        intro first firstIn last lastIn
        rw [List.mem_singleton.mp lastIn, grown,
          List.idxOf_append_of_mem (mem_names_ofList.mp firstIn),
          List.idxOf_append_of_notMem (mt mem_names_ofList.mpr fresh)]
        exact Nat.lt_add_right _ (List.idxOf_lt_length_iff.mpr (mem_names_ofList.mp firstIn))

/-- A name stands for the last declaration that came under it. -/
theorem resolve_ofList_eq (decls : List Declaration) (name : String) :
    (ofList decls).resolve name =
      decls.reverse.find? fun decl => decide (decl.qualifiedName = name) := by
  induction decls using List.reverseRecOn with
  | nil => rfl
  | append_singleton earlier decl ih =>
      rw [ofList_concat, resolve_insert, List.reverse_concat, List.find?_cons, ← ih]
      by_cases here : decl.qualifiedName = name <;> simp [here]

/-- A name stands for the declaration at its place. -/
theorem resolve_eq_getElem? (table : SymbolTable) (name : String) :
    table.resolve name = (table.names.idxOf? name).bind (table.declarations[·]?) := by
  unfold resolve names
  induction table.declarations with
  | nil => rfl
  | cons first rest ih =>
      rw [List.find?_cons, List.map_cons, List.idxOf?_cons]
      by_cases here : first.qualifiedName = name
      · simp [here]
      · simp only [here, decide_false, ih, beq_iff_eq, if_false, Option.bind_map]
        rfl

end SymbolTable

/-- Declarations with an index that tells the place of each name among them. -/
structure IndexedTable where
  declarations : List Declaration := []
  slots : SortedMap String Nat := .empty

namespace IndexedTable

/-- Write a declaration to the slot of its name, or to a new one at the end. -/
def insert (indexed : IndexedTable) (decl : Declaration) : IndexedTable :=
  match indexed.slots.get? decl.qualifiedName with
  | some slot => { indexed with declarations := indexed.declarations.set slot decl }
  | none =>
    { declarations := indexed.declarations ++ [decl]
      slots := indexed.slots.insert decl.qualifiedName indexed.declarations.length }

def extend (indexed : IndexedTable) (decls : List Declaration) : IndexedTable :=
  decls.foldl insert indexed

/-- The declaration in the slot of a name. -/
def resolve (indexed : IndexedTable) (name : String) : Option Declaration :=
  (indexed.slots.get? name).bind (indexed.declarations[·]?)

/-- The index tells the places of the names of a table, and no others. -/
structure InStep (indexed : IndexedTable) (table : SymbolTable) : Prop where
  declarations : indexed.declarations = table.declarations
  slots : ∀ name, indexed.slots.get? name = table.names.idxOf? name

end IndexedTable

theorem idxOf?_concat {names : List String} {last : String} (fresh : last ∉ names)
    (name : String) :
    (names ++ [last]).idxOf? name =
      if name = last then some names.length else names.idxOf? name := by
  change (names ++ [last]).findIdx? (· == name) = _
  rw [List.findIdx?_append]
  change (names.idxOf? name).or (([last].idxOf? name).map (· + names.length)) = _
  by_cases here : name = last
  · subst here
    simp [List.idxOf?_eq_none_iff.mpr fresh, List.idxOf?_cons]
  · simp [here, Ne.symm here, List.idxOf?_cons]

namespace SymbolTable

theorem place_eq_set {decl : Declaration} {decls : List Declaration} {slot : Nat}
    (known : (declarationNames decls).idxOf? decl.qualifiedName = some slot) :
    place decl decls = decls.set slot decl := by
  induction decls generalizing slot with
  | nil => cases known
  | cons first rest ih =>
      rw [declarationNames, List.map_cons, List.idxOf?_cons] at known
      unfold place
      by_cases same : first.qualifiedName = decl.qualifiedName
      · simp only [same, beq_self_eq_true, if_true, Option.some.injEq] at known
        subst known
        simp [same]
      · simp only [beq_iff_eq, same, if_false, Option.map_eq_some_iff] at known
        obtain ⟨before, found, rfl⟩ := known
        rw [if_neg same, ih found, List.set_cons_succ]

end SymbolTable

namespace IndexedTable.InStep

variable {indexed : IndexedTable} {table : SymbolTable}

theorem empty : InStep {} .empty := ⟨rfl, fun _ => rfl⟩

theorem insert (step : InStep indexed table) (decl : Declaration) :
    InStep (indexed.insert decl) (table.insert decl) := by
  unfold IndexedTable.insert
  rw [step.slots]
  cases known : table.names.idxOf? decl.qualifiedName with
  | some slot =>
      have member : decl.qualifiedName ∈ table.names := by
        by_contra fresh
        rw [List.idxOf?_eq_none_iff.mpr fresh] at known
        cases known
      constructor
      case declarations =>
        change indexed.declarations.set slot decl = SymbolTable.place decl table.declarations
        rw [step.declarations, SymbolTable.place_eq_set known]
      case slots =>
        rw [SymbolTable.names_insert, if_pos member]
        exact step.slots
  | none =>
      have fresh := List.idxOf?_eq_none_iff.mp known
      constructor
      case declarations =>
        have atEnd := SymbolTable.place_append_of_not_mem fresh []
        rw [List.append_nil] at atEnd
        change indexed.declarations ++ [decl] = SymbolTable.place decl table.declarations
        rw [step.declarations, atEnd]
        rfl
      case slots =>
        intro name
        change (indexed.slots.insert decl.qualifiedName indexed.declarations.length).get? name = _
        rw [SymbolTable.names_insert, if_neg fresh, SortedMap.get?_insert, step.slots,
          step.declarations, ← List.length_map Declaration.qualifiedName]
        exact (idxOf?_concat fresh name).symm

theorem extend (step : InStep indexed table) (decls : List Declaration) :
    InStep (indexed.extend decls) (table.extend decls) := by
  induction decls generalizing indexed table with
  | nil => exact step
  | cons decl rest ih => exact ih (step.insert decl)

theorem resolve (step : InStep indexed table) (name : String) :
    indexed.resolve name = table.resolve name := by
  rw [IndexedTable.resolve, step.slots, step.declarations, SymbolTable.resolve_eq_getElem?]

end IndexedTable.InStep

namespace SymbolTable

section Find

variable {table : SymbolTable} {name : String} {decl : Declaration}

/-- The declaration that a name means: the one with this qualified name, or without one the only
    declaration with this simple name. -/
def Means (table : SymbolTable) (name : String) (decl : Declaration) : Prop :=
  decl ∈ table.declarations ∧
    (decl.qualifiedName = name ∨
      name ∉ table.names ∧ decl.simpleName = name ∧
        ∀ other ∈ table.declarations, other.simpleName = name → other = decl)

theorem mem_withSimpleName :
    decl ∈ table.withSimpleName name ↔ decl ∈ table.declarations ∧ decl.simpleName = name := by
  rw [withSimpleName, List.mem_filter, decide_eq_true_eq]

theorem withSimpleName_eq_nil_iff :
    table.withSimpleName name = [] ↔ ∀ decl ∈ table.declarations, decl.simpleName ≠ name := by
  simp only [List.eq_nil_iff_forall_not_mem, mem_withSimpleName, not_and, ne_eq]

theorem nodup_withSimpleName (table : SymbolTable) (name : String) :
    ((table.withSimpleName name).map Declaration.qualifiedName).Nodup :=
  table.distinct.sublist (List.filter_sublist.map _)

theorem withSimpleName_eq_singleton_iff :
    table.withSimpleName name = [decl] ↔
      decl ∈ table.declarations ∧ decl.simpleName = name ∧
        ∀ other ∈ table.declarations, other.simpleName = name → other = decl := by
  have distinct := (nodup_withSimpleName table name).of_map
  have members := @mem_withSimpleName table name
  constructor
  · intro single
    rw [single] at members
    obtain ⟨declared, named⟩ := members.mp (List.mem_singleton_self decl)
    exact ⟨declared, named, fun other otherIn same =>
      List.mem_singleton.mp (members.mpr ⟨otherIn, same⟩)⟩
  · rintro ⟨declared, named, only⟩
    have inList := members.mpr ⟨declared, named⟩
    have same : ∀ other ∈ table.withSimpleName name, other = decl := fun other otherIn =>
      only other (members.mp otherIn).1 (members.mp otherIn).2
    cases listed : table.withSimpleName name with
    | nil => rw [listed] at inList; cases inList
    | cons first rest =>
        rw [listed] at same distinct
        have firstSame := same first List.mem_cons_self
        -- A second one would be the same declaration again.
        cases rest with
        | nil => rw [firstSame]
        | cons second others =>
            have secondSame := same second (List.mem_cons_of_mem _ List.mem_cons_self)
            have apart := (List.nodup_cons.mp distinct).1
            rw [firstSame, secondSame] at apart
            exact absurd List.mem_cons_self apart

theorem means_iff :
    table.Means name decl ↔ table.resolve name = some decl ∨
      table.resolve name = none ∧ table.withSimpleName name = [decl] := by
  rw [Means, and_or_left, ← resolve_eq_some_iff, and_left_comm, ← resolve_eq_none_iff,
    withSimpleName_eq_singleton_iff]

theorem find_eq_ok_iff : table.find name = .ok decl ↔ table.Means name decl := by
  rw [means_iff, find]
  cases table.resolve name with
  | some held => simp
  | none =>
      match table.withSimpleName name with
      | [only] => simp
      | [] => simp
      | first :: second :: rest => simp

/-- A name that is missed has no declaration, and not just one with it as simple name. -/
theorem find_eq_error_iff {failure : NotFound} :
    table.find name = .error failure ↔
      name ∉ table.names ∧ (∀ decl, table.withSimpleName name ≠ [decl]) ∧
        failure = ⟨name,
          if table.withSimpleName name = [] then table.suggestions name
          else (table.withSimpleName name).map fun decl => ⟨decl.qualifiedName, 0⟩⟩ := by
  rw [← resolve_eq_none_iff, find]
  cases table.resolve name with
  | some decl => simp
  | none =>
      match table.withSimpleName name with
      | [only] => simp
      | [] => simp [eq_comm]
      | first :: second :: rest => simp [eq_comm]

end Find

/-- What is done to a table. -/
inductive Call where
  | insert (decl : Declaration)
  | extend (decls : List Declaration)
  /-- A new table takes its place, made of the declarations of a snapshot. -/
  | snapshot (decls : List Declaration)

def call (table : SymbolTable) : Call → SymbolTable
  | .insert decl => table.insert decl
  | .extend decls => table.extend decls
  | .snapshot decls => ofList decls

def run (calls : List Call) : SymbolTable :=
  calls.foldl call empty

/-- The declarations that have come into a table, after one more call. -/
def arrived (earlier : List Declaration) : Call → List Declaration
  | .insert decl => earlier ++ [decl]
  | .extend decls => earlier ++ decls
  | .snapshot decls => decls

/-- The declarations that calls bring into the table that they leave, one after another. -/
def arrivals (calls : List Call) : List Declaration :=
  calls.foldl arrived []

theorem call_ofList (earlier : List Declaration) (call : Call) :
    (ofList earlier).call call = ofList (arrived earlier call) := by
  cases call with
  | insert decl => exact (ofList_concat earlier decl).symm
  | extend decls => exact extend_ofList earlier decls
  | snapshot decls => rfl

theorem run_eq (calls : List Call) : run calls = ofList (arrivals calls) := by
  have start : ∀ earlier : List Declaration,
      calls.foldl call (ofList earlier) = ofList (calls.foldl arrived earlier) := by
    induction calls with
    | nil => exact fun _ => rfl
    | cons call rest ih =>
        intro earlier
        rw [List.foldl_cons, List.foldl_cons, call_ofList, ih]
  exact start []

end SymbolTable

namespace IndexedTable

open SymbolTable (Call)

def call (indexed : IndexedTable) : Call → IndexedTable
  | .insert decl => indexed.insert decl
  | .extend decls => indexed.extend decls
  | .snapshot decls => extend {} decls

def run (calls : List Call) : IndexedTable :=
  calls.foldl call {}

theorem InStep.call {indexed : IndexedTable} {table : SymbolTable} (step : InStep indexed table)
    (call : Call) : InStep (indexed.call call) (table.call call) := by
  cases call with
  | insert decl => exact step.insert decl
  | extend decls => exact step.extend decls
  | snapshot decls => exact InStep.empty.extend decls

theorem inStep_run (calls : List Call) : InStep (run calls) (SymbolTable.run calls) := by
  have start : ∀ {indexed table}, InStep indexed table →
      InStep (calls.foldl IndexedTable.call indexed) (calls.foldl SymbolTable.call table) := by
    induction calls with
    | nil => exact id
    | cons call rest ih => exact fun step => ih (step.call call)
  exact start .empty

end IndexedTable

namespace SymbolTable

/-- What a table tells of the declarations that came into it, and its index with it. -/
structure OrderedLaw (table : SymbolTable) (indexed : IndexedTable)
    (arrivals : List Declaration) : Prop where
  distinct : table.names.Nodup
  known : ∀ name, name ∈ table.names ↔ name ∈ declarationNames arrivals
  /-- Names stand in the order in which each of them first came. -/
  ordered : table.names.Pairwise fun first second =>
    (declarationNames arrivals).idxOf first < (declarationNames arrivals).idxOf second
  latest : ∀ name, table.resolve name =
    arrivals.reverse.find? fun decl => decide (decl.qualifiedName = name)
  absent_iff : ∀ name, table.resolve name = none ↔ name ∉ declarationNames arrivals
  placed : ∀ name, table.resolve name = (table.names.idxOf? name).bind (table.declarations[·]?)
  /-- The index holds the places of the names, so each slot is one of the table. -/
  inStep : indexed.InStep table
  inRange : ∀ {name slot}, indexed.slots.get? name = some slot → slot < indexed.declarations.length
  agrees : ∀ name, indexed.resolve name = table.resolve name
  found_iff : ∀ name decl, table.find name = .ok decl ↔ table.Means name decl
  missed : ∀ name, (∀ decl, ¬table.Means name decl) →
    ∃ suggestions, table.find name = .error ⟨name, suggestions⟩

theorem orderedLaw_of_calls (calls : List Call) :
    OrderedLaw (run calls) (IndexedTable.run calls) (arrivals calls) where
  distinct := (run calls).distinct
  known := by
    intro name
    rw [run_eq, mem_names_ofList]
  ordered := by
    rw [run_eq]
    exact ordered_ofList _
  latest := by
    intro name
    rw [run_eq, resolve_ofList_eq]
  absent_iff := by
    intro name
    rw [run_eq, resolve_ofList_eq_none_iff]
  placed := resolve_eq_getElem? _
  inStep := IndexedTable.inStep_run calls
  inRange := by
    intro name slot held
    have step := IndexedTable.inStep_run calls
    rw [step.slots] at held
    obtain ⟨within, -⟩ := List.idxOf?_eq_some_iff.mp held
    rwa [names, List.length_map, ← step.declarations] at within
  agrees := (IndexedTable.inStep_run calls).resolve
  found_iff := fun _ _ => find_eq_ok_iff
  missed := by
    intro name unmeant
    cases outcome : (run calls).find name with
    | ok decl => exact absurd (find_eq_ok_iff.mp outcome) (unmeant decl)
    | error failure =>
        obtain ⟨-, -, rfl⟩ := find_eq_error_iff.mp outcome
        exact ⟨_, rfl⟩

/-- A class that comes again keeps its place. -/
example :
    let table := (empty.insert { qualifiedName := "app.Home" }).extend
      [{ qualifiedName := "app.Detail" }, { qualifiedName := "app.Home", resolved := false }]
    table.names = ["app.Home", "app.Detail"] ∧
      table.resolve "app.Home" = some { qualifiedName := "app.Home", resolved := false } := by
  decide +kernel

end SymbolTable

end RouteAtlas
