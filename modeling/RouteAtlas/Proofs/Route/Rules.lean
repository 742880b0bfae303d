import Mathlib
import RouteAtlas.Proofs.Route.Validation

/-! # The rules of validation

A record passes if its path starts with a slash and its group is made of word characters. The group
is the one given, or else what stands between the first two slashes. Of the rules that a record
breaks the first one is reported.
-/

namespace RouteAtlas

/-- A path that starts with a slash. -/
def Rooted (path : String) : Prop :=
  ∃ rest, path.toList = '/' :: rest

/-- What stands strictly between the first two slashes of a path. -/
def Between (path text : String) : Prop :=
  ∃ before after, path.toList = before ++ '/' :: (text.toList ++ '/' :: after) ∧
    '/' ∉ before ∧ '/' ∉ text.toList

/-- A text over `[0-9A-Za-z_]`. -/
def Worded (text : String) : Prop :=
  ∀ c ∈ text.toList,
    ('A' ≤ c ∧ c ≤ 'Z') ∨ ('a' ≤ c ∧ c ≤ 'z') ∨ ('0' ≤ c ∧ c ≤ '9') ∨ c = '_'

theorem isRooted_iff {path : String} : isRooted path = true ↔ Rooted path := by
  unfold isRooted Rooted
  rw [beq_iff_eq, List.head?_eq_some_iff]

theorem isGroupName_iff {group : String} : isGroupName group = true ↔ Worded group := by
  unfold isGroupName Worded
  rw [List.all_eq_true]
  refine forall₂_congr fun c _ => ?_
  simp only [QualifiedName.isWordChar, Char.isAlphanum, Char.isAlpha, Char.isUpper, Char.isLower,
    Char.isDigit, Bool.or_eq_true, Bool.and_eq_true, decide_eq_true_eq, beq_iff_eq, ge_iff_le,
    Char.le_def, or_assoc]

section Between

variable {path text : String} {before after : List Char}

theorem other_of_noSlash (absent : '/' ∉ before) : ∀ c ∈ before, (c != '/') = true :=
  fun _ member => bne_iff_ne.mpr fun same => absent (same ▸ member)

theorem takeWhile_upToSlash (absent : '/' ∉ before) :
    (before ++ '/' :: after).takeWhile (· != '/') = before := by
  rw [List.takeWhile_append_of_pos (other_of_noSlash absent),
    List.takeWhile_cons_of_neg (by simp), List.append_nil]

theorem Between.text_eq (between : Between path text) :
    text.toList = ((path.toList.dropWhile (· != '/')).drop 1).takeWhile (· != '/') := by
  obtain ⟨before, after, whole, noneBefore, noneIn⟩ := between
  rw [whole, List.dropWhile_append_of_pos (other_of_noSlash noneBefore),
    List.dropWhile_cons_of_neg (by simp), List.drop_one, List.tail_cons,
    takeWhile_upToSlash noneIn]

theorem Between.unique {other : String} (one : Between path text) (another : Between path other) :
    text = other :=
  String.toList_inj.mp (one.text_eq.trans another.text_eq.symm)

/-- A path that starts with a slash has nothing before its first one. -/
theorem Between.of_rooted {rest : List Char} (rooted : path.toList = '/' :: rest)
    (between : Between path text) : ∃ after, rest = text.toList ++ '/' :: after := by
  obtain ⟨before, after, whole, noneBefore, -⟩ := between
  rw [rooted] at whole
  cases before with
  | nil => exact ⟨after, (List.cons.inj whole).2⟩
  | cons c before =>
      have here : '/' = c := (List.cons.inj whole).1
      exact absurd (here ▸ List.mem_cons_self) noneBefore

theorem deriveGroup?_eq_some_iff {group : String} :
    deriveGroup? path = some group ↔ Rooted path ∧ Between path group ∧ group ≠ "" := by
  constructor
  · intro derived
    unfold deriveGroup? at derived
    split at derived
    case h_2 => cases derived
    case h_1 rest rooted =>
      split at derived
      case isFalse => cases derived
      case isTrue member =>
        obtain ⟨same, filled⟩ := given?_eq_some_iff.mp derived
        obtain ⟨text, after, rfl, absent⟩ := List.eq_append_cons_of_mem member
        rw [takeWhile_upToSlash absent] at same
        subst same
        exact ⟨⟨_, rooted⟩, ⟨[], after, by simpa using rooted, List.not_mem_nil, by simpa⟩, filled⟩
  · rintro ⟨⟨rest, rooted⟩, between, filled⟩
    obtain ⟨after, rfl⟩ := between.of_rooted rooted
    obtain ⟨-, -, -, -, absent⟩ := between
    simp only [deriveGroup?, rooted, List.mem_append, List.mem_cons, true_or, or_true, if_true,
      takeWhile_upToSlash absent, String.ofList_toList]
    exact given?_eq_some_iff.mpr ⟨rfl, filled⟩

end Between

namespace RouteRecord

variable {record valid : RouteRecord} {group : String}

/-- No group was given; an empty one counts as none. -/
def Ungrouped (record : RouteRecord) : Prop :=
  ∀ given, record.group = some given → given = ""

/-- The group of a record is the one given, or else what stands between the first two slashes of its
    path. -/
inductive HasGroup (record : RouteRecord) : String → Prop where
  | given {group : String} : record.group = some group → group ≠ "" → HasGroup record group
  | derived {group : String} : record.Ungrouped → Between record.path group → HasGroup record group

theorem HasGroup.unique {other : String} (one : record.HasGroup group)
    (another : record.HasGroup other) : group = other := by
  cases one with
  | given named filled =>
      cases another with
      | given also _ => exact Option.some.inj (named.symm.trans also)
      | derived ungrouped _ => exact absurd (ungrouped group named) filled
  | derived ungrouped between =>
      cases another with
      | given also filled => exact absurd (ungrouped other also) filled
      | derived _ also => exact between.unique also

theorem effectiveGroup?_eq_some_iff (rooted : Rooted record.path) :
    record.effectiveGroup? = some group ↔ record.HasGroup group ∧ group ≠ "" := by
  unfold effectiveGroup?
  cases named : record.group.bind given? with
  | some given =>
      obtain ⟨text, same, kept⟩ := Option.bind_eq_some_iff.mp named
      obtain ⟨rfl, filled⟩ := given?_eq_some_iff.mp kept
      have has : record.HasGroup text := .given same filled
      constructor
      · intro same
        rw [← Option.some.inj same]
        exact ⟨has, filled⟩
      · rintro ⟨other, -⟩
        rw [has.unique other]
  | none =>
      have ungrouped : record.Ungrouped := by
        intro text same
        refine Decidable.byContradiction fun filled => ?_
        rw [same, Option.bind_some, given?_eq_some_iff.mpr ⟨rfl, filled⟩] at named
        cases named
      change deriveGroup? record.path = some group ↔ _
      rw [deriveGroup?_eq_some_iff]
      constructor
      · rintro ⟨-, between, filled⟩
        exact ⟨.derived ungrouped between, filled⟩
      · rintro ⟨has, filled⟩
        cases has with
        | given same _ => exact absurd (ungrouped group same) filled
        | derived _ between => exact ⟨rooted, between, filled⟩

theorem effectiveGroup?_eq_none_iff (rooted : Rooted record.path) :
    record.effectiveGroup? = none ↔
      record.Ungrouped ∧ ∀ text, Between record.path text → text = "" := by
  rw [Option.eq_none_iff_forall_ne_some]
  constructor
  · intro absent
    have vacant : ∀ text, record.HasGroup text → text = "" := fun text has =>
      Decidable.byContradiction fun filled =>
        absent text ((effectiveGroup?_eq_some_iff rooted).mpr ⟨has, filled⟩)
    have ungrouped : record.Ungrouped := fun text same =>
      Decidable.byContradiction fun filled => filled (vacant text (.given same filled))
    exact ⟨ungrouped, fun text between => vacant text (.derived ungrouped between)⟩
  · rintro ⟨ungrouped, vacant⟩ group effective
    obtain ⟨has, filled⟩ := (effectiveGroup?_eq_some_iff rooted).mp effective
    cases has with
    | given same _ => exact filled (ungrouped group same)
    | derived _ between => exact filled (vacant group between)

/-- The first rule that a record breaks. -/
theorem validate_eq_error_iff {error : BuildError} :
    record.validate = .error error ↔
      ¬Rooted record.path ∧ error = .invalidPath record.path record.target.name ∨
      Rooted record.path ∧ (record.Ungrouped ∧ ∀ text, Between record.path text → text = "") ∧
        error = .noGroup record.path record.target.name ∨
      Rooted record.path ∧ ∃ group, (record.HasGroup group ∧ group ≠ "") ∧ ¬Worded group ∧
        error = .invalidGroup group record.path record.target.name := by
  unfold validate
  rw [← isRooted_iff]
  cases start : isRooted record.path with
  | false => simp [@eq_comm _ error]
  | true =>
      have rooted := isRooted_iff.mp start
      simp only [← effectiveGroup?_eq_none_iff rooted, ← effectiveGroup?_eq_some_iff rooted,
        ← isGroupName_iff]
      cases record.effectiveGroup? with
      | none => simp [@eq_comm _ error]
      | some group => cases worded : isGroupName group <;> simp [worded, @eq_comm _ error]

/-- What validation makes of a record. -/
structure ValidationLaw (record : RouteRecord) : Prop where
  /-- A record has one group at most. -/
  oneGroup : ∀ {group other}, record.HasGroup group → record.HasGroup other → group = other
  passes_iff : (∃ valid, record.validate = .ok valid) ↔
    Rooted record.path ∧ ∃ group, record.HasGroup group ∧ group ≠ "" ∧ Worded group
  /-- Nothing but the group is filled in. -/
  filled : ∀ {valid}, record.validate = .ok valid →
    ∃ group, record.HasGroup group ∧ valid = { record with group := some group }
  again : ∀ {valid}, record.validate = .ok valid → valid.validate = .ok valid
  invalidPath_iff : record.validate = .error (.invalidPath record.path record.target.name) ↔
    ¬Rooted record.path
  noGroup_iff : record.validate = .error (.noGroup record.path record.target.name) ↔
    Rooted record.path ∧ record.Ungrouped ∧ ∀ text, Between record.path text → text = ""
  invalidGroup_iff : ∀ {group},
    record.validate = .error (.invalidGroup group record.path record.target.name) ↔
      Rooted record.path ∧ (record.HasGroup group ∧ group ≠ "") ∧ ¬Worded group
  /-- There are no other errors. -/
  errors : ∀ {error}, record.validate = .error error →
    error = .invalidPath record.path record.target.name ∨
      error = .noGroup record.path record.target.name ∨
      ∃ group, error = .invalidGroup group record.path record.target.name

theorem validationLaw_of_record (record : RouteRecord) : ValidationLaw record where
  oneGroup := HasGroup.unique
  passes_iff := by
    constructor
    · rintro ⟨valid, passed⟩
      obtain ⟨start, group, effective, worded, -⟩ := validate_eq_ok_iff.mp passed
      have rooted := isRooted_iff.mp start
      obtain ⟨has, filled⟩ := (effectiveGroup?_eq_some_iff rooted).mp effective
      exact ⟨rooted, group, has, filled, isGroupName_iff.mp worded⟩
    · rintro ⟨rooted, group, has, filled, worded⟩
      have effective := (effectiveGroup?_eq_some_iff rooted).mpr ⟨has, filled⟩
      exact ⟨_, validate_eq_ok_iff.mpr
        ⟨isRooted_iff.mpr rooted, group, effective, isGroupName_iff.mpr worded, rfl⟩⟩
  filled := by
    intro valid passed
    obtain ⟨start, group, effective, -, same⟩ := validate_eq_ok_iff.mp passed
    have has := ((effectiveGroup?_eq_some_iff (isRooted_iff.mp start)).mp effective).1
    exact ⟨group, has, same⟩
  again := fun passed => (valid_of_validate passed).validate
  invalidPath_iff := by simp [validate_eq_error_iff]
  noGroup_iff := by simp [validate_eq_error_iff]
  invalidGroup_iff := by
    intro group
    simp [validate_eq_error_iff]
  errors := by
    intro error refused
    rcases validate_eq_error_iff.mp refused with
      ⟨-, same⟩ | ⟨-, -, same⟩ | ⟨-, group, -, -, same⟩
    · exact .inl same
    · exact .inr (.inl same)
    · exact .inr (.inr ⟨group, same⟩)

end RouteRecord

end RouteAtlas
