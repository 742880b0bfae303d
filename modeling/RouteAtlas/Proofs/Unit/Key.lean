import RouteAtlas.Proofs.Route.Validation
import RouteAtlas.Unit.Key

/-! # Telling units apart

A table and an injector never share a path, let alone a name: what stands before the last dollars of
their paths differs. Two tables of a module with one path are one table.
-/

namespace RouteAtlas

/-- The names of the tables that are made of the routes of a module. -/
inductive IsRouteKey (module : String) : UnitKey → Prop where
  | group {name} (word : isGroupName name = true) : IsRouteKey module (.group name)
  | providers : IsRouteKey module (.providers module)
  | root : IsRouteKey module (.root module)

namespace UnitKey

/-- The letter before the last two dollars of a path. -/
def mark? (path : String) : Option Char :=
  ((path.toList.reverse.dropWhile (· != '$')).drop 2).head?

/-- What stands before the name of a unit in its path. -/
def folder (package : String) : List Char :=
  if package.isEmpty then []
  else package.toList.map (fun c => if c = '.' then '/' else c) ++ ['/']

theorem toList_path (key : UnitKey) (extension : String) :
    (key.path extension).toList =
      folder key.package ++ (key.name.toList ++ '.' :: extension.toList) := by
  unfold path folder
  split <;> simp

/-- In one package a path belongs to one unit. -/
theorem path_injective {a b : UnitKey} {extension : String} (packages : a.package = b.package)
    (same : a.path extension = b.path extension) : a = b := by
  have letters := congrArg String.toList same
  rw [toList_path, toList_path, packages] at letters
  have names := List.append_cancel_right (List.append_cancel_left letters)
  cases a
  cases b
  rw [UnitKey.mk.injEq]
  exact ⟨packages, String.toList_injective names⟩

theorem mark?_path {key : UnitKey} {extension : String} (before word : List Char) {letter : Char}
    (named : key.name.toList = before ++ letter :: '$' :: '$' :: word) (plain : '$' ∉ word)
    (plainEnd : '$' ∉ extension.toList) : mark? (key.path extension) = some letter := by
  have passed : ∀ c ∈ extension.toList.reverse ++ '.' :: word.reverse, (c != '$') = true := by
    intro c member
    simp only [List.mem_append, List.mem_reverse, List.mem_cons] at member
    rw [bne_iff_ne]
    rintro rfl
    rcases member with ending | dot | inWord
    · exact plainEnd ending
    · cases dot
    · exact plain inWord
  have turned : (key.path extension).toList.reverse =
      (extension.toList.reverse ++ '.' :: word.reverse) ++
        '$' :: '$' :: letter :: (before.reverse ++ (folder key.package).reverse) := by
    simp [toList_path, named]
  rw [mark?, turned, List.dropWhile_append_of_pos passed]
  rfl

theorem mark?_injector (owner : TypeRef) {extension : String}
    (plainEnd : '$' ∉ extension.toList) : mark? ((injector owner).path extension) = some 'r' := by
  apply mark?_path (owner.simpleName.toList ++ "$$ARoute".toList) "Autowired".toList _ _ plainEnd
  · simp [injector, Contract.injectorUnit]
  · decide

end UnitKey

theorem isGroupName_sanitize (raw : String) : isGroupName (QualifiedName.sanitize raw) = true := by
  simp [isGroupName, QualifiedName.sanitize]

namespace UnitKey

theorem mark?_group {name extension : String} (word : isGroupName name = true)
    (plainEnd : '$' ∉ extension.toList) : mark? ((group name).path extension) = some 'p' := by
  apply mark?_path "ARouter$$Grou".toList _ _ (not_mem_of_isGroupName rfl word) plainEnd
  simp [group, Contract.groupUnit]

theorem mark?_providers (module : String) {extension : String}
    (plainEnd : '$' ∉ extension.toList) : mark? ((providers module).path extension) = some 's' := by
  apply mark?_path "ARouter$$Provider".toList _ _ (not_mem_of_isGroupName rfl (isGroupName_sanitize module)) plainEnd
  simp [providers, Contract.providersUnit]

theorem mark?_root (module : String) {extension : String}
    (plainEnd : '$' ∉ extension.toList) : mark? ((root module).path extension) = some 't' := by
  apply mark?_path "ARouter$$Roo".toList _ _ (not_mem_of_isGroupName rfl (isGroupName_sanitize module)) plainEnd
  simp [root, Contract.rootUnit]

theorem mark?_interceptors (module : String) {extension : String}
    (plainEnd : '$' ∉ extension.toList) :
    mark? ((interceptors module).path extension) = some 's' := by
  apply mark?_path "ARouter$$Interceptor".toList _ _ (not_mem_of_isGroupName rfl (isGroupName_sanitize module)) plainEnd
  simp [interceptors, Contract.interceptorsUnit]

end UnitKey

namespace IsRouteKey

variable {module : String} {key : UnitKey}

theorem package_eq (routes : IsRouteKey module key) : key.package = Contract.tablePackage := by
  cases routes <;> rfl

theorem path_ne_injector (routes : IsRouteKey module key) (owner : TypeRef) {extension : String}
    (plainEnd : '$' ∉ extension.toList) :
    key.path extension ≠ (UnitKey.injector owner).path extension := by
  intro same
  have marks := congrArg UnitKey.mark? same
  rw [UnitKey.mark?_injector owner plainEnd] at marks
  cases routes with
  | group word => simp [UnitKey.mark?_group word plainEnd] at marks
  | providers => simp [UnitKey.mark?_providers module plainEnd] at marks
  | root => simp [UnitKey.mark?_root module plainEnd] at marks

theorem ne_interceptors (routes : IsRouteKey module key) (other : String) :
    key ≠ .interceptors other := by
  intro same
  have letters := congrArg (fun key : UnitKey => key.name.toList[9]?) same
  cases routes <;>
    simp [UnitKey.group, UnitKey.providers, UnitKey.root, UnitKey.interceptors, Contract.groupUnit,
      Contract.providersUnit, Contract.rootUnit, Contract.interceptorsUnit] at letters

end IsRouteKey

/-- The names of the tables of a module. -/
def IsTableKey (module : String) (key : UnitKey) : Prop :=
  IsRouteKey module key ∨ key = .interceptors module

namespace IsTableKey

variable {module : String} {key : UnitKey}

theorem package_eq (isTable : IsTableKey module key) : key.package = Contract.tablePackage := by
  rcases isTable with routes | rfl
  · exact routes.package_eq
  · rfl

theorem path_ne_injector (isTable : IsTableKey module key) (owner : TypeRef) {extension : String}
    (plainEnd : '$' ∉ extension.toList) :
    key.path extension ≠ (UnitKey.injector owner).path extension := by
  rcases isTable with routes | rfl
  · exact routes.path_ne_injector owner plainEnd
  · intro same
    have marks := congrArg UnitKey.mark? same
    rw [UnitKey.mark?_injector owner plainEnd, UnitKey.mark?_interceptors module plainEnd] at marks
    cases marks

theorem ne_injector (isTable : IsTableKey module key) (owner : TypeRef) :
    key ≠ UnitKey.injector owner := by
  rintro rfl
  have plain : '$' ∉ "".toList := by simp
  exact isTable.path_ne_injector owner plain rfl

end IsTableKey

section Slashes

/-- Neither the package nor the name of a unit has a slash. -/
structure UnitKey.Plain (key : UnitKey) : Prop where
  package : '/' ∉ key.package.toList
  name : '/' ∉ key.name.toList

namespace UnitKey

/-- The end of a folder is a slash. -/
theorem slash_mem_of_folder {package : String} {before after : List Char}
    (split : folder package = before ++ after) (rest : after ≠ []) : '/' ∈ after := by
  unfold folder at split
  split at split
  · exact absurd (List.append_eq_nil_iff.mp split.symm).2 rest
  · have ends := congrArg List.getLast? split
    rw [List.getLast?_append, List.getLast?_append, List.getLast?_eq_some_getLast rest] at ends
    simp only [List.getLast?_singleton, Option.some_or, Option.some.injEq] at ends
    rw [ends]
    exact List.getLast_mem rest

theorem folder_append_injective {first second : String} {name other : List Char}
    (plain : '/' ∉ name) (otherPlain : '/' ∉ other)
    (same : folder first ++ name = folder second ++ other) :
    folder first = folder second ∧ name = other := by
  rcases List.append_eq_append_iff.mp same with ⟨more, longer, rfl⟩ | ⟨more, longer, rfl⟩
  · cases more with
    | nil => exact ⟨by rw [longer, List.append_nil], rfl⟩
    | cons c rest =>
        have slash := slash_mem_of_folder longer (List.cons_ne_nil c rest)
        exact absurd (List.mem_append_left _ slash) plain
  · cases more with
    | nil => exact ⟨by rw [longer, List.append_nil], rfl⟩
    | cons c rest =>
        have slash := slash_mem_of_folder longer (List.cons_ne_nil c rest)
        exact absurd (List.mem_append_left _ slash) otherPlain

theorem folder_injective {first second : String} (plain : '/' ∉ first.toList)
    (otherPlain : '/' ∉ second.toList) (same : folder first = folder second) : first = second := by
  have undo : ∀ {letters : List Char}, '/' ∉ letters →
      ((letters.map fun c => if c = '.' then '/' else c).map fun c => if c = '/' then '.' else c) =
        letters := by
    intro letters plain
    rw [List.map_map]
    refine (List.map_congr_left fun c member => ?_).trans (List.map_id _)
    have different : c ≠ '/' := fun slash => plain (slash ▸ member)
    by_cases dot : c = '.' <;> simp [dot, different]
  unfold folder at same
  cases blank : first.isEmpty <;> cases otherBlank : second.isEmpty
  · simp only [blank, otherBlank, Bool.false_eq_true, if_false] at same
    have letters := List.append_cancel_right same
    exact String.toList_injective (by rw [← undo plain, letters, undo otherPlain])
  · simp [blank, otherBlank] at same
  · simp [blank, otherBlank] at same
  · rw [String.isEmpty_iff.mp blank, String.isEmpty_iff.mp otherBlank]

theorem path_injective_of_plain {a b : UnitKey} {extension : String} (aPlain : a.Plain)
    (bPlain : b.Plain) (same : a.path extension = b.path extension) : a = b := by
  have letters := congrArg String.toList same
  rw [toList_path, toList_path, ← List.append_assoc, ← List.append_assoc] at letters
  obtain ⟨folders, names⟩ := folder_append_injective aPlain.name bPlain.name
    (List.append_cancel_right letters)
  cases a
  cases b
  rw [UnitKey.mk.injEq]
  exact ⟨folder_injective aPlain.package bPlain.package folders, String.toList_injective names⟩

end UnitKey

/-- The name of a table is made of word characters and dollars. -/
theorem IsTableKey.not_mem_name {module : String} {key : UnitKey} (isTable : IsTableKey module key)
    {c : Char} (outside : QualifiedName.isWordChar c = false) (other : c ≠ '$') :
    c ∉ key.name.toList := by
  have words : ∀ {before word : String},
      before.toList.all (fun c => QualifiedName.isWordChar c || c == '$') = true →
        isGroupName word = true → c ∉ (before ++ word).toList := by
    intro before word made spelled
    rw [String.toList_append, List.mem_append, not_or]
    refine ⟨fun member => ?_, not_mem_of_isGroupName outside spelled⟩
    have allowed := List.all_eq_true.mp made c member
    simp [outside, other] at allowed
  have sanitized := isGroupName_sanitize module
  rcases isTable with route | rfl
  · cases route with
    | group word => exact words (by decide) word
    | providers => exact words (by decide) sanitized
    | root => exact words (by decide) sanitized
  · exact words (by decide) sanitized

theorem IsTableKey.plain {module : String} {key : UnitKey} (isTable : IsTableKey module key) :
    key.Plain :=
  ⟨by rw [isTable.package_eq]; decide, isTable.not_mem_name rfl (by decide)⟩

theorem UnitKey.plain_injector {owner : TypeRef} (plain : '/' ∉ owner.name.toList) :
    (injector owner).Plain := by
  have parts : '/' ∉ owner.package.toList ∧ '/' ∉ owner.simpleName.toList := by
    unfold TypeRef.package TypeRef.simpleName QualifiedName.package QualifiedName.simple
    cases split : QualifiedName.splitLast '.' owner.name.toList with
    | none => exact ⟨by simp, plain⟩
    | some parts =>
        rw [QualifiedName.eq_append_of_splitLast split] at plain
        simp only [List.mem_append, List.mem_cons, not_or] at plain
        simpa using ⟨plain.1, plain.2.2⟩
  refine ⟨parts.1, ?_⟩
  rw [injector, String.toList_append, List.mem_append, not_or]
  exact ⟨parts.2, by decide⟩

end Slashes

end RouteAtlas
