import Mathlib.Data.List.Nodup
import RouteAtlas.Proofs.Classification.Ancestors
import RouteAtlas.Round.Report

/-! # Declarations of a table

A table of declarations with distinct names keeps them in order. One more declaration goes to the
end, or in the place of the one with its name.
-/

namespace RouteAtlas.SymbolTable

variable {table : SymbolTable} {decl : Declaration} {decls : List Declaration} {name : String}

theorem place_append_of_not_mem (fresh : decl.qualifiedName ∉ declarationNames decls)
    (others : List Declaration) : place decl (decls ++ others) = decls ++ place decl others := by
  induction decls with
  | nil => rfl
  | cons first rest ih =>
      simp only [declarationNames, List.map_cons, List.mem_cons, not_or] at fresh
      rw [List.cons_append, place, if_neg (Ne.symm fresh.1), ih fresh.2, List.cons_append]

theorem declarations_extend
    (distinct : (declarationNames (table.declarations ++ decls)).Nodup) :
    (table.extend decls).declarations = table.declarations ++ decls := by
  induction decls generalizing table with
  | nil => rw [List.append_nil]; rfl
  | cons decl rest ih =>
      have fresh : decl.qualifiedName ∉ declarationNames table.declarations := by
        intro known
        rw [declarationNames, List.map_append] at distinct
        exact (List.nodup_append.mp distinct).2.2 _ known _
          (List.mem_map_of_mem List.mem_cons_self) rfl
      have placed : (table.insert decl).declarations = table.declarations ++ [decl] := by
        have atEnd := place_append_of_not_mem fresh []
        rwa [List.append_nil] at atEnd
      change ((table.insert decl).extend rest).declarations = _
      rw [ih, placed, List.append_assoc, List.singleton_append]
      rwa [placed, List.append_assoc, List.singleton_append]

theorem declarations_ofList (distinct : (declarationNames decls).Nodup) :
    (ofList decls).declarations = decls :=
  @declarations_extend empty decls distinct

/-- A table is that of its declarations. -/
theorem eq_ofList (listed : table.declarations = decls) : table = ofList decls := by
  have distinct := table.distinct
  rw [listed] at distinct
  have same : table.declarations = (ofList decls).declarations := by
    rw [listed, declarations_ofList distinct]
  cases table
  cases known : ofList decls
  rw [known] at same
  cases same
  rfl

theorem resolve_of_mem (member : decl ∈ table.declarations) :
    table.resolve decl.qualifiedName = some decl := by
  cases found : table.resolve decl.qualifiedName with
  | none =>
      have absent := List.find?_eq_none.mp found decl member
      simp at absent
  | some other =>
      rw [List.inj_on_of_nodup_map table.distinct (mem_of_resolve found) member
        (name_of_resolve found)]

theorem resolve_eq_some_iff :
    table.resolve name = some decl ↔ decl ∈ table.declarations ∧ decl.qualifiedName = name := by
  constructor
  · exact fun found => ⟨mem_of_resolve found, name_of_resolve found⟩
  · rintro ⟨declared, rfl⟩
    exact resolve_of_mem declared

theorem resolve_eq_none_iff : table.resolve name = none ↔ name ∉ table.names := by
  simp [resolve, names, List.find?_eq_none]

theorem supertypeNames_of_mem (member : decl ∈ table.declarations) :
    table.supertypeNames decl.qualifiedName = decl.supertypes.map TypeRef.name := by
  rw [supertypeNames, resolve_of_mem member]
  rfl

theorem supertypeNames_of_not_mem (unknown : name ∉ declarationNames table.declarations) :
    table.supertypeNames name = [] := by
  rw [supertypeNames, resolve_eq_none_iff.mpr unknown]
  rfl

theorem supertypeNames_congr {other : SymbolTable} {twin : Declaration}
    (member : decl ∈ table.declarations) (twinIn : twin ∈ other.declarations)
    (names : twin.qualifiedName = decl.qualifiedName)
    (supertypes : twin.supertypes = decl.supertypes) :
    other.supertypeNames decl.qualifiedName = table.supertypeNames decl.qualifiedName := by
  rw [supertypeNames_of_mem member, ← names, supertypeNames_of_mem twinIn, supertypes]

theorem supertypeNames_of_perm {other : SymbolTable}
    (perm : other.declarations.Perm table.declarations) (name : String) :
    other.supertypeNames name = table.supertypeNames name := by
  by_cases known : name ∈ declarationNames table.declarations
  · obtain ⟨decl, member, rfl⟩ := List.mem_map.mp known
    exact supertypeNames_congr member (perm.mem_iff.mpr member) rfl rfl
  · have absent : name ∉ declarationNames other.declarations :=
      fun listed => known ((perm.map Declaration.qualifiedName).mem_iff.mp listed)
    rw [supertypeNames_of_not_mem known, supertypeNames_of_not_mem absent]

/-- What is made of classes differs if what it is made from does. -/
theorem nodup_filterMap {ν μ κ : Type} {make : Declaration → Option ν}
    {mark : Declaration → Option μ} {f : ν → κ} {g : μ → κ}
    (own : ∀ {decl made}, make decl = some made → ∃ given, mark decl = some given ∧ f made = g given)
    (distinct : ((decls.filterMap mark).map g).Nodup) : ((decls.filterMap make).map f).Nodup := by
  rw [List.Nodup, List.pairwise_map, List.pairwise_filterMap] at distinct ⊢
  refine distinct.imp fun {first second} differ made madeOf other otherOf same => ?_
  obtain ⟨given, marked, here⟩ := own madeOf
  obtain ⟨otherGiven, otherMarked, there⟩ := own otherOf
  rw [here, there] at same
  exact differ given marked otherGiven otherMarked same

theorem nodup_targets {ν : Type} {make : Declaration → Option ν} {target : ν → TypeRef}
    (own : ∀ {decl made}, make decl = some made → target made = decl.asType)
    (distinct : (declarationNames decls).Nodup) : ((decls.filterMap make).map target).Nodup := by
  have classes : ((decls.filterMap some).map Declaration.asType).Nodup := by
    rw [List.filterMap_some, List.Nodup, List.pairwise_map]
    refine (List.pairwise_map.mp distinct).imp fun {first second} differ same => ?_
    injection same with names
    exact differ names
  exact nodup_filterMap (fun {decl _} made => ⟨decl, rfl, own made⟩) classes

section Versions

theorem find?_place (decl : Declaration) (decls : List Declaration) (name : String) :
    (place decl decls).find? (fun held => decide (held.qualifiedName = name)) =
      if decl.qualifiedName = name then some decl
      else decls.find? fun held => decide (held.qualifiedName = name) := by
  induction decls with
  | nil => by_cases here : decl.qualifiedName = name <;> simp [place, here]
  | cons first rest ih =>
      unfold place
      by_cases same : first.qualifiedName = decl.qualifiedName
      · by_cases here : decl.qualifiedName = name <;> simp [same, here]
      · by_cases here : decl.qualifiedName = name
        · have other : first.qualifiedName ≠ name := fun equal => same (equal.trans here.symm)
          simp only [same, if_false, List.find?_cons, other, decide_false, ih]
        · simp only [same, if_false, List.find?_cons, ih, here]

theorem resolve_insert (table : SymbolTable) (decl : Declaration) (name : String) :
    (table.insert decl).resolve name =
      if decl.qualifiedName = name then some decl else table.resolve name :=
  find?_place decl table.declarations name

/-- A name stands for the last declaration that was inserted under it. -/
theorem resolve_extend (table : SymbolTable) (decls : List Declaration) (name : String) :
    (table.extend decls).resolve name = ((ofList decls).resolve name).or (table.resolve name) := by
  induction decls generalizing table with
  | nil => rfl
  | cons decl rest ih =>
      have step : ∀ start : SymbolTable, (start.extend (decl :: rest)).resolve name =
          ((ofList rest).resolve name).or ((start.insert decl).resolve name) :=
        fun start => ih (start.insert decl)
      rw [ofList, step, step, Option.or_assoc, resolve_insert, resolve_insert]
      by_cases here : decl.qualifiedName = name
      · simp [here]
      · simp only [here, if_false]
        rfl

theorem resolve_ofList_append (first second : List Declaration) (name : String) :
    (ofList (first ++ second)).resolve name =
      ((ofList second).resolve name).or ((ofList first).resolve name) := by
  have split : ofList (first ++ second) = (ofList first).extend second := List.foldl_append
  rw [split, resolve_extend]

theorem mem_of_resolve_ofList (found : (ofList decls).resolve name = some decl) : decl ∈ decls := by
  induction decls with
  | nil => cases found
  | cons first rest ih =>
      rw [← List.singleton_append, resolve_ofList_append, Option.or_eq_some_iff] at found
      rcases found with later | ⟨-, here⟩
      · exact List.mem_cons_of_mem _ (ih later)
      · exact List.mem_append_left rest (mem_of_resolve here)

theorem resolve_ofList_eq_none_iff :
    (ofList decls).resolve name = none ↔ name ∉ declarationNames decls := by
  induction decls with
  | nil => exact iff_of_true rfl List.not_mem_nil
  | cons first rest ih =>
      have one : (ofList [first]).resolve name =
          if first.qualifiedName = name then some first else none := resolve_insert empty first name
      rw [← List.singleton_append, resolve_ofList_append, Option.or_eq_none_iff, ih, one]
      simp [declarationNames, eq_comm, and_comm]

end Versions

end RouteAtlas.SymbolTable
