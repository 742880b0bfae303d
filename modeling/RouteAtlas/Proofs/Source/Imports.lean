import RouteAtlas.Proofs.Source.Names

/-! # Classes that are written alike

A simple name stands for the first class that claims it, and later ones are written in full. That
keeps classes apart, except for a class of the default package: its full name is its simple name,
which may stand for another class by then.
-/

namespace RouteAtlas

namespace QualifiedName

variable {name : String}

theorem simple_of_plain (plain : '.' ∉ name.toList) : simple name = name := by
  rw [simple, splitLast_eq_none_iff.mpr plain]

theorem package_of_plain (plain : '.' ∉ name.toList) : package name = "" := by
  rw [package, splitLast_eq_none_iff.mpr plain]

end QualifiedName

namespace Imports

variable {imports : Imports} {names : List String} {name : String}

/-- The imports of a source that has not mentioned a class yet. -/
def fresh (package : String) (implicit : List String) : Imports := ⟨package, implicit, .empty⟩

/-- Classes written one after another, each after it has claimed its simple name. -/
def calls (imports : Imports) : List String → List (String × String)
  | [] => []
  | name :: rest =>
    (name, (imports.claim name).written name) :: (imports.claim name).calls rest

section Claims

theorem taken_claim (imports : Imports) (name : String) :
    ((imports.claim name).holders.get? (QualifiedName.simple name)).isSome = true := by
  rw [get?_claim, if_pos rfl]
  cases imports.holders.get? (QualifiedName.simple name) <;> rfl

/-- How a class is written is settled once its simple name is taken. -/
theorem written_claimAll (taken : (imports.holders.get? (QualifiedName.simple name)).isSome = true)
    (names : List String) : (imports.claimAll names).written name = imports.written name := by
  obtain ⟨holder, held⟩ := Option.isSome_iff_exists.mp taken
  simp only [written, get?_claimAll, held, Option.some_or]

/-- What is written by and by is what is written in the end. -/
theorem calls_eq (imports : Imports) (names : List String) :
    imports.calls names = names.map fun name => (name, (imports.claimAll names).written name) := by
  induction names generalizing imports with
  | nil => rfl
  | cons name rest ih =>
      rw [calls, ih, List.map_cons, claimAll_cons, written_claimAll (imports.taken_claim name)]

theorem mem_calls {text : String} :
    (name, text) ∈ imports.calls names ↔
      name ∈ names ∧ (imports.claimAll names).written name = text := by
  rw [calls_eq, List.mem_map]
  constructor
  · rintro ⟨written, member, same⟩
    cases same
    exact ⟨member, rfl⟩
  · rintro ⟨member, rfl⟩
    exact ⟨name, member, rfl⟩

theorem exists_firstBearer (member : name ∈ names) :
    ∃ holder, firstBearer? names (QualifiedName.simple name) = some holder := by
  cases found : firstBearer? names (QualifiedName.simple name) with
  | none => simpa using List.find?_eq_none.mp found name member
  | some holder => exact ⟨holder, rfl⟩

end Claims

section Imported

theorem ascending_imported (imports : Imports) : imports.imported.Pairwise (· < ·) :=
  SortedMap.keys_ascending _

/-- Under one simple name one class is imported. -/
theorem pairwise_imported (hold : imports.Hold names) :
    imports.imported.Pairwise fun first second =>
      QualifiedName.simple first ≠ QualifiedName.simple second := by
  refine imports.ascending_imported.imp_of_mem fun {first second} firstIn secondIn below same => ?_
  obtain ⟨⟨key, firstHeld⟩, -⟩ := mem_imported.mp firstIn
  obtain ⟨⟨other, secondHeld⟩, -⟩ := mem_imported.mp secondIn
  have keys : key = other := by
    rw [← (hold key first firstHeld).1, same, (hold other second secondHeld).1]
  rw [keys, secondHeld, Option.some.injEq] at firstHeld
  exact LinearKey.irrefl first (firstHeld ▸ below)

theorem near_of_not_isForeign (near : ¬imports.isForeign name = true) :
    QualifiedName.package name = imports.package ∨
      QualifiedName.package name ∈ imports.implicit ∨ QualifiedName.package name = "" := by
  simp only [isForeign, Bool.and_eq_true, Bool.not_eq_true', bne_iff_ne, not_and_or, not_not,
    Bool.not_eq_false, String.isEmpty_iff, List.contains_iff_mem] at near
  rcases near with (blank | own) | member
  · exact .inr (.inr blank)
  · exact .inl own
  · exact .inr (.inl member)

/-- A class that is written without a dot is imported unless it needs no import. -/
theorem imported_or_near (plain : '.' ∉ (imports.written name).toList) :
    name ∈ imports.imported ∨ QualifiedName.package name = imports.package ∨
      QualifiedName.package name ∈ imports.implicit ∨ QualifiedName.package name = "" := by
  by_cases held : imports.holders.get? (QualifiedName.simple name) = some name
  · by_cases foreign : imports.isForeign name = true
    · exact .inl (mem_imported.mpr ⟨⟨_, held⟩, foreign⟩)
    · exact .inr (near_of_not_isForeign foreign)
  · rw [written, if_neg held] at plain
    exact .inr (.inr (.inr (QualifiedName.package_of_plain plain)))

end Imported

/-- A class of the default package is written by its name though that stands for another class. -/
def Shadows (names : List String) (holder bare : String) : Prop :=
  '.' ∉ bare.toList ∧ holder ≠ bare ∧ firstBearer? names bare = some holder

section Fresh

variable {package : String} {implicit : List String} {first second : String}

theorem written_fresh (package : String) (implicit names : List String) (name : String) :
    ((fresh package implicit).claimAll names).written name =
      if firstBearer? names (QualifiedName.simple name) = some name then QualifiedName.simple name
      else name := by
  rw [written, get?_claimAll]
  rfl

theorem Shadows.written_eq (shadows : Shadows names first second) :
    ((fresh package implicit).claimAll names).written first =
      ((fresh package implicit).claimAll names).written second := by
  obtain ⟨plain, other, held⟩ := shadows
  have named : QualifiedName.simple first = second := by simpa using List.find?_some held
  have lost : firstBearer? names second ≠ some second := by
    rw [held, ne_eq, Option.some.injEq]
    exact other
  rw [written_fresh, written_fresh, named, if_pos held, QualifiedName.simple_of_plain plain,
    if_neg lost]

/-- If a class is written by a simple name that another one stands for, it has no other name. -/
private theorem shadows_of_simple
    (held : firstBearer? names (QualifiedName.simple first) = some first)
    (other : first ≠ second) (same : QualifiedName.simple first = second) :
    Shadows names first second := by
  have plain := QualifiedName.dot_not_mem_simple first
  rw [same] at held plain
  exact ⟨plain, other, held⟩

theorem written_eq_iff :
    ((fresh package implicit).claimAll names).written first =
        ((fresh package implicit).claimAll names).written second ↔
      first = second ∨ Shadows names first second ∨ Shadows names second first := by
  constructor
  · intro same
    by_cases equal : first = second
    · exact .inl equal
    · refine .inr ?_
      rw [written_fresh, written_fresh] at same
      -- Two simple names that are the same have one holder, and of two full names neither is one.
      split at same
      case isTrue firstHeld =>
        split at same
        case isTrue secondHeld =>
          rw [same, secondHeld, Option.some.injEq] at firstHeld
          exact absurd firstHeld.symm equal
        case isFalse => exact .inl (shadows_of_simple firstHeld equal same)
      case isFalse =>
        split at same
        case isTrue secondHeld =>
          exact .inr (shadows_of_simple secondHeld (Ne.symm equal) same.symm)
        case isFalse => exact absurd same equal
  · rintro (rfl | shadows | shadows)
    · rfl
    · exact shadows.written_eq
    · exact shadows.written_eq.symm

end Fresh

/-- What holds of the classes that a source mentions, in whichever order. -/
structure NamingLaw (package : String) (implicit names : List String) : Prop where
  /-- A class is written in the same way throughout. -/
  constant : ∀ {name text other}, (name, text) ∈ (fresh package implicit).calls names →
    (name, other) ∈ (fresh package implicit).calls names → text = other
  /-- Two classes are written alike exactly if one of them has no package and the other one was the
      first to claim its name. -/
  alike_iff : ∀ {first second text other},
    (first, text) ∈ (fresh package implicit).calls names →
    (second, other) ∈ (fresh package implicit).calls names →
    (text = other ↔ first = second ∨ Shadows names first second ∨ Shadows names second first)
  /-- So no two are exactly if each class of the default package was the first with its name. -/
  apart_iff : (∀ {first second text}, (first, text) ∈ (fresh package implicit).calls names →
      (second, text) ∈ (fresh package implicit).calls names → first = second) ↔
    ∀ name ∈ names, '.' ∉ name.toList → firstBearer? names name = some name
  lines : ∀ terminator, ((fresh package implicit).claimAll names).lines terminator =
    String.join (((fresh package implicit).claimAll names).imported.map fun name =>
      "import " ++ name ++ terminator ++ "\n")
  /-- No two import lines bind one simple name. -/
  bound : ((fresh package implicit).claimAll names).imported.Pairwise fun first second =>
    QualifiedName.simple first ≠ QualifiedName.simple second
  ascending : ((fresh package implicit).claimAll names).imported.Pairwise (· < ·)
  /-- What is written without a dot is imported or needs no import. -/
  plain : ∀ {name text}, (name, text) ∈ (fresh package implicit).calls names →
    '.' ∉ text.toList →
    name ∈ ((fresh package implicit).claimAll names).imported ∨
      QualifiedName.package name = package ∨ QualifiedName.package name ∈ implicit ∨
      QualifiedName.package name = ""

theorem apart_iff_firstBearer (package : String) (implicit names : List String) :
    (∀ {first second text}, (first, text) ∈ (fresh package implicit).calls names →
        (second, text) ∈ (fresh package implicit).calls names → first = second) ↔
      ∀ name ∈ names, '.' ∉ name.toList → firstBearer? names name = some name := by
  constructor
  · intro apart name member plain
    obtain ⟨holder, held⟩ := exists_firstBearer member
    rw [QualifiedName.simple_of_plain plain] at held
    suffices own : holder = name by rw [held, own]
    by_contra other
    have shadows : Shadows names holder name := ⟨plain, other, held⟩
    exact other (apart (mem_calls.mpr ⟨List.mem_of_find?_eq_some held, shadows.written_eq⟩)
      (mem_calls.mpr ⟨member, rfl⟩))
  · intro own first second text here there
    obtain ⟨firstIn, firstText⟩ := mem_calls.mp here
    obtain ⟨secondIn, secondText⟩ := mem_calls.mp there
    have unshadowed : ∀ {holder bare}, bare ∈ names → ¬Shadows names holder bare := by
      rintro holder bare member ⟨plain, other, held⟩
      rw [own bare member plain, Option.some.injEq] at held
      exact other held.symm
    rcases written_eq_iff.mp (firstText.trans secondText.symm) with same | shadows | shadows
    · exact same
    · exact absurd shadows (unshadowed secondIn)
    · exact absurd shadows (unshadowed firstIn)

/-- Classes are kept apart by how they are written, but for the default package. -/
theorem namingLaw_of_calls (package : String) (implicit names : List String) :
    NamingLaw package implicit names where
  constant := by
    intro name text other one another
    rw [← (mem_calls.mp one).2, ← (mem_calls.mp another).2]
  alike_iff := by
    intro first second text other one another
    rw [← (mem_calls.mp one).2, ← (mem_calls.mp another).2]
    exact written_eq_iff
  apart_iff := apart_iff_firstBearer package implicit names
  lines := fun _ => rfl
  bound := pairwise_imported (hold_claimAll package implicit names)
  ascending := ascending_imported _
  plain := by
    intro name text called plain
    rw [← (mem_calls.mp called).2] at plain
    obtain ⟨own, members⟩ := claimAll_eq (fresh package implicit) names
    have place := imported_or_near plain
    rwa [own, members] at place

/-- A page of the default package is taken for one that was mentioned before it. -/
theorem home_shadowed :
    (fresh Contract.tablePackage ["kotlin"]).calls ["app.ui.Home", "Home"] =
        [("app.ui.Home", "Home"), ("Home", "Home")] ∧
      ((fresh Contract.tablePackage ["kotlin"]).claimAll ["app.ui.Home", "Home"]).imported =
        ["app.ui.Home"] ∧
      ¬∀ first second text,
        (first, text) ∈ (fresh Contract.tablePackage ["kotlin"]).calls ["app.ui.Home", "Home"] →
        (second, text) ∈ (fresh Contract.tablePackage ["kotlin"]).calls ["app.ui.Home", "Home"] →
        first = second := by
  have calls : (fresh Contract.tablePackage ["kotlin"]).calls ["app.ui.Home", "Home"] =
      [("app.ui.Home", "Home"), ("Home", "Home")] := by decide +kernel
  refine ⟨calls, by decide +kernel, fun apart => ?_⟩
  rw [calls] at apart
  exact absurd (apart "app.ui.Home" "Home" "Home" (by simp) (by simp)) (by decide)

end Imports

end RouteAtlas
