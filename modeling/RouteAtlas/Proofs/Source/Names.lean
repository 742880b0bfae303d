import RouteAtlas.Contract
import RouteAtlas.Proofs.SortedMap
import RouteAtlas.Proofs.Source.Words
import RouteAtlas.Source.Basic

/-! # Names in a source

A class may be written by its simple name. The imports of the source, or else its package, lead back
to the class.
-/

namespace RouteAtlas

section Qualified

def IsIdentifier (name : String) : Prop :=
  name ≠ "" ∧ ∀ c ∈ name.toList, Source.isNameLetter c = true

instance (name : String) : Decidable (IsIdentifier name) :=
  decidable_of_iff (name ≠ "" ∧ name.toList.all Source.isNameLetter = true)
    (by simp [IsIdentifier])

/-- Identifiers joined by at least one dot. -/
def IsQualified (name : String) : Prop :=
  '.' ∈ name.toList ∧ ∀ part ∈ name.toList.splitOn '.', IsIdentifier (String.ofList part)

instance (name : String) : Decidable (IsQualified name) :=
  inferInstanceAs (Decidable (_ ∧ _))

theorem QualifiedName.mark_not_mem_of_splitLast {mark : Char} {cs before after : List Char}
    (split : splitLast mark cs = some (before, after)) : mark ∉ after := by
  induction cs generalizing before with
  | nil => simp [splitLast] at split
  | cons c rest ih =>
      cases found : splitLast mark rest with
      | some parts =>
          obtain ⟨b, a⟩ := parts
          simp only [splitLast, found, Option.some.injEq, Prod.mk.injEq] at split
          obtain ⟨-, rfl⟩ := split
          exact ih found
      | none =>
          have absent := splitLast_eq_none_iff.mp found
          by_cases here : c = mark
          · simp only [splitLast, found, here, if_true, Option.some.injEq, Prod.mk.injEq] at split
            exact split.2 ▸ absent
          · simp [splitLast, found, here] at split

theorem QualifiedName.dot_not_mem_simple (name : String) :
    '.' ∉ (simple name).toList := by
  unfold simple
  cases split : splitLast '.' name.toList with
  | none => exact splitLast_eq_none_iff.mp split
  | some parts => simpa using mark_not_mem_of_splitLast split

/-- The parts of a name that is written after a package. -/
theorem QualifiedName.splitLast_append {simpleName : String} (plain : '.' ∉ simpleName.toList)
    (package : String) : splitLast '.' (package ++ "." ++ simpleName).toList =
      some (package.toList, simpleName.toList) := by
  have named : (package ++ "." ++ simpleName).toList =
      package.toList ++ '.' :: simpleName.toList := by
    simp
  cases split : splitLast '.' (package ++ "." ++ simpleName).toList with
  | none =>
      rw [named] at split
      exact absurd (List.mem_append_right _ List.mem_cons_self) (splitLast_eq_none_iff.mp split)
  | some parts =>
      obtain ⟨before, after⟩ := parts
      have ends := eq_append_of_splitLast split
      have reversed := congrArg List.reverse (named.symm.trans ends)
      simp only [List.reverse_append, List.reverse_cons, List.append_assoc,
        List.singleton_append] at reversed
      obtain ⟨afters, befores⟩ := Source.append_mark_injective (by simpa using plain)
        (by simpa using mark_not_mem_of_splitLast split) reversed
      rw [List.reverse_injective afters, List.reverse_injective befores]

theorem QualifiedName.simple_append {simpleName : String} (plain : '.' ∉ simpleName.toList)
    (package : String) : simple (package ++ "." ++ simpleName) = simpleName := by
  rw [simple, splitLast_append plain]
  exact String.ofList_toList

theorem QualifiedName.package_append {simpleName : String} (plain : '.' ∉ simpleName.toList)
    (before : String) : package (before ++ "." ++ simpleName) = before := by
  rw [package, splitLast_append plain]
  exact String.ofList_toList

namespace IsQualified

variable {name : String}

theorem split (qualified : IsQualified name) :
    ∃ before after, QualifiedName.splitLast '.' name.toList = some (before, after) ∧
      before ≠ [] ∧ IsIdentifier (String.ofList after) := by
  obtain ⟨dotted, parts⟩ := qualified
  cases found : QualifiedName.splitLast '.' name.toList with
  | none => exact absurd dotted (QualifiedName.splitLast_eq_none_iff.mp found)
  | some sides =>
      obtain ⟨before, after⟩ := sides
      have plain := QualifiedName.mark_not_mem_of_splitLast found
      rw [QualifiedName.eq_append_of_splitLast found, List.splitOn_append_cons_self,
        List.splitOn_eq_singleton plain] at parts
      refine ⟨before, after, rfl, ?_, parts after (by simp)⟩
      rintro rfl
      exact (parts [] (by simp)).1 rfl

theorem eq_append (qualified : IsQualified name) :
    name = QualifiedName.package name ++ "." ++ QualifiedName.simple name := by
  obtain ⟨before, after, found, -, -⟩ := qualified.split
  apply String.toList_injective
  simp [QualifiedName.package, QualifiedName.simple, found,
    ← QualifiedName.eq_append_of_splitLast found]

theorem package_ne_empty (qualified : IsQualified name) : QualifiedName.package name ≠ "" := by
  obtain ⟨before, after, found, filled, -⟩ := qualified.split
  simpa [QualifiedName.package, found] using filled

theorem simple (qualified : IsQualified name) : IsIdentifier (QualifiedName.simple name) := by
  obtain ⟨before, after, found, -, isIdentifier⟩ := qualified.split
  simpa [QualifiedName.simple, found] using isIdentifier

/-- Between its dots a qualified name is made of the letters of names. -/
theorem letters (qualified : IsQualified name) :
    ∀ c ∈ name.toList, c ≠ '.' → Source.isNameLetter c = true := by
  have inParts : ∀ {letters : List Char} {c : Char}, c ∈ letters → c ≠ '.' →
      ∃ part ∈ letters.splitOn '.', c ∈ part := by
    intro letters c member other
    have joined : ['.'].intercalate (letters.splitOn '.') = letters :=
      List.intercalate_splitOn '.'
    rw [← joined] at member
    generalize letters.splitOn '.' = parts at member ⊢
    induction parts with
    | nil => simp at member
    | cons part parts ih =>
        cases parts with
        | nil => exact ⟨part, List.mem_cons_self, by simpa using member⟩
        | cons next parts =>
            rw [List.intercalate_cons_cons, List.mem_append, List.mem_append] at member
            rcases member with (here | dot) | later
            · exact ⟨part, List.mem_cons_self, here⟩
            · exact absurd (List.mem_singleton.mp dot) other
            · obtain ⟨found, known, inside⟩ := ih later
              exact ⟨found, List.mem_cons_of_mem _ known, inside⟩
  intro c member other
  obtain ⟨part, known, inside⟩ := inParts member other
  exact (qualified.2 part known).2 c (by simpa using inside)

end IsQualified

theorem IsIdentifier.isWord {name : String} (isIdentifier : IsIdentifier name) :
    Source.IsWord name :=
  Source.isWord_iff.mpr ⟨isIdentifier.1, fun c member => by
    simp [Source.isWordLetter, isIdentifier.2 c member]⟩

theorem IsQualified.isWord {name : String} (qualified : IsQualified name) :
    Source.IsWord name := by
  refine Source.isWord_iff.mpr ⟨fun blank => ?_, fun c member => ?_⟩
  · have dotted := qualified.1
    rw [blank] at dotted
    exact absurd dotted (by decide)
  · by_cases dot : c = '.'
    · rw [dot]
      decide
    · simp [Source.isWordLetter, qualified.letters c member dot]

end Qualified

namespace Contract

/-- The classes that sources mention of themselves. -/
def runtimeClasses : List String :=
  [routeRoot, routeGroup, providerGroup, interceptorGroup, interceptor, syringe, jsonService,
    typeWrapper, routeMeta, routeType, launcher, androidLog, javaMap]

theorem isQualified_of_runtime {name : String} (known : name ∈ runtimeClasses) :
    IsQualified name := by
  have all : ∀ name ∈ runtimeClasses, IsQualified name := by
    decide +kernel
  exact all name known

end Contract

namespace Imports

/-- Each simple name stands for a class with that simple name, one of those that claimed theirs. -/
def Hold (imports : Imports) (names : List String) : Prop :=
  ∀ key name, imports.holders.get? key = some name →
    QualifiedName.simple name = key ∧ name ∈ names

/-- The first of some classes with the given simple name. -/
def firstBearer? (names : List String) (simple : String) : Option String :=
  names.find? fun name => decide (QualifiedName.simple name = simple)

theorem get?_claim (imports : Imports) (name key : String) :
    (imports.claim name).holders.get? key =
      (imports.holders.get? key).or
        (if QualifiedName.simple name = key then some name else none) := by
  simp only [claim]
  split
  case isTrue taken =>
    split
    case isTrue here =>
      obtain ⟨holder, held⟩ := Option.isSome_iff_exists.mp taken
      rw [← here, held, Option.some_or]
    case isFalse => rw [Option.or_none]
  case isFalse free =>
    rw [Option.not_isSome_iff_eq_none] at free
    rw [SortedMap.get?_insert]
    by_cases here : key = QualifiedName.simple name
    · simp [here, free]
    · simp [here, Ne.symm here]

theorem claimAll_cons (imports : Imports) (name : String) (rest : List String) :
    imports.claimAll (name :: rest) = (imports.claim name).claimAll rest := rfl

/-- Claims of a simple name come to nothing once it is taken. -/
theorem get?_claimAll (imports : Imports) (names : List String) (key : String) :
    (imports.claimAll names).holders.get? key =
      (imports.holders.get? key).or (firstBearer? names key) := by
  induction names generalizing imports with
  | nil => exact Option.or_none.symm
  | cons name rest ih =>
      rw [claimAll_cons, ih, get?_claim, Option.or_assoc, firstBearer?, firstBearer?,
        List.find?_cons]
      by_cases here : QualifiedName.simple name = key <;> simp [here]

theorem hold_claimAll (package : String) (implicit names : List String) :
    (claimAll ⟨package, implicit, .empty⟩ names).Hold names := by
  intro key name held
  rw [get?_claimAll, SortedMap.get?_empty, Option.none_or] at held
  exact ⟨by simpa using List.find?_some held, List.mem_of_find?_eq_some held⟩

theorem claimAll_eq (imports : Imports) (names : List String) :
    (imports.claimAll names).package = imports.package ∧
      (imports.claimAll names).implicit = imports.implicit := by
  induction names generalizing imports with
  | nil => exact ⟨rfl, rfl⟩
  | cons name names ih =>
      have claimed : (imports.claim name).package = imports.package ∧
          (imports.claim name).implicit = imports.implicit := by
        simp only [claim]
        split <;> exact ⟨rfl, rfl⟩
      rw [← claimed.1, ← claimed.2]
      exact ih (imports.claim name)

theorem mem_imported {imports : Imports} {name : String} :
    name ∈ imports.imported ↔
      (∃ key, imports.holders.get? key = some name) ∧ imports.isForeign name = true := by
  simp only [imported, mem_sortedDistinct, List.mem_filter, SortedMap.values,
    SortedMap.get?_eq_some_iff, List.mem_map, Prod.exists, exists_eq_right]

theorem written_eq (imports : Imports) (name : String) :
    imports.written name = QualifiedName.simple name ∨ imports.written name = name := by
  unfold written
  simp only
  split
  · exact .inl rfl
  · exact .inr rfl

theorem isWord_written (imports : Imports) {name : String} (qualified : IsQualified name) :
    Source.IsWord (imports.written name) := by
  rcases imports.written_eq name with simple | full
  · rw [simple]
    exact qualified.simple.isWord
  · rw [full]
    exact qualified.isWord

end Imports

/-- What a source says about names: its package, and the classes that it imports. -/
structure Scope where
  package : String
  imports : List String

/-- The class that is written in a source. A simple name stands for what is imported under it, or
    else for a class of the same package. -/
def Scope.resolve (scope : Scope) (written : String) : String :=
  if '.' ∈ written.toList then written
  else
    (scope.imports.find? fun name => QualifiedName.simple name = written).getD
      (scope.package ++ "." ++ written)

/-- A class is found again from how it is written, unless it lies in a package whose members need no
    import. -/
theorem Scope.resolve_written (package : String) {implicit : List String} (names : List String)
    {name : String} (qualified : IsQualified name)
    (explicit : QualifiedName.package name ∉ implicit) :
    let imports := Imports.claimAll ⟨package, implicit, .empty⟩ names
    Scope.resolve ⟨package, imports.imported⟩ (imports.written name) = name := by
  intro imports
  have hold := Imports.hold_claimAll package implicit names
  obtain ⟨own, members⟩ := Imports.claimAll_eq ⟨package, implicit, .empty⟩ names
  by_cases held : imports.holders.get? (QualifiedName.simple name) = some name
  case pos =>
    have written : imports.written name = QualifiedName.simple name := if_pos held
    have plain := QualifiedName.dot_not_mem_simple name
    -- under the simple name of the class nothing else can be imported
    have alone : ∀ other ∈ imports.imported,
        QualifiedName.simple other = QualifiedName.simple name → other = name := by
      intro other known same
      obtain ⟨⟨key, found⟩, -⟩ := Imports.mem_imported.mp known
      rw [← (hold key other found).1, same, held] at found
      exact (Option.some.inj found).symm
    rw [written, resolve, if_neg plain]
    by_cases foreign : imports.isForeign name = true
    case pos =>
      have known : name ∈ imports.imported := Imports.mem_imported.mpr ⟨⟨_, held⟩, foreign⟩
      cases found : imports.imported.find? fun other =>
          QualifiedName.simple other = QualifiedName.simple name with
      | none => simpa using List.find?_eq_none.mp found name known
      | some other =>
          have same := List.find?_some found
          simp only [decide_eq_true_eq] at same
          exact alone other (List.mem_of_find?_eq_some found) same
    case neg =>
      have absent : (imports.imported.find? fun other =>
          QualifiedName.simple other = QualifiedName.simple name) = none := by
        rw [List.find?_eq_none]
        intro other known same
        simp only [decide_eq_true_eq] at same
        rw [alone other known same] at known
        exact foreign (Imports.mem_imported.mp known).2
      have here : QualifiedName.package name = package := by
        simpa [Imports.isForeign, imports, own, members, explicit,
          qualified.package_ne_empty] using foreign
      rw [absent, Option.getD_none]
      exact (here ▸ qualified.eq_append).symm
  case neg =>
    have written : imports.written name = name := if_neg held
    rw [written, resolve, if_pos qualified.1]

end RouteAtlas
