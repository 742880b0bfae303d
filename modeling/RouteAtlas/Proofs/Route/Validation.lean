import RouteAtlas.Route.Validation

/-! # Valid routes

Validation leaves a record as it is but for its group, and a record that it once let pass it lets
pass unchanged.
-/

namespace RouteAtlas

theorem given?_eq_some_iff {text given : String} :
    given? text = some given ↔ text = given ∧ given ≠ "" := by
  unfold given?
  by_cases vacant : text = ""
  · subst vacant
    constructor
    · simp
    · rintro ⟨rfl, absurdity⟩
      exact absurd rfl absurdity
  · have filled : text.isEmpty = false := by simpa [String.isEmpty_iff] using vacant
    simp only [filled, Bool.false_eq_true, if_false, Option.some.injEq]
    exact ⟨fun same => ⟨same, same ▸ vacant⟩, And.left⟩

theorem deriveGroup?_ne_empty {path group : String} (derived : deriveGroup? path = some group) :
    group ≠ "" := by
  unfold deriveGroup? at derived
  split at derived
  · split at derived
    · exact (given?_eq_some_iff.mp derived).2
    · simp at derived
  · simp at derived

theorem not_mem_of_isGroupName {c : Char} (plain : QualifiedName.isWordChar c = false)
    {group : String} (word : isGroupName group = true) : c ∉ group.toList := by
  intro member
  have allowed := List.all_eq_true.mp word c member
  rw [plain] at allowed
  cases allowed

namespace RouteRecord

theorem effectiveGroup?_ne_empty {record : RouteRecord} {group : String}
    (effective : record.effectiveGroup? = some group) : group ≠ "" := by
  unfold effectiveGroup? at effective
  split at effective
  · rename_i named
    cases effective
    obtain ⟨_, _, given⟩ := Option.bind_eq_some_iff.mp named
    exact (given?_eq_some_iff.mp given).2
  · exact deriveGroup?_ne_empty effective

/-- A record that keeps the rules and has its group filled in. -/
structure Valid (record : RouteRecord) : Prop where
  rooted : isRooted record.path = true
  group : record.group = some record.groupName
  named : record.groupName ≠ ""
  worded : isGroupName record.groupName = true

theorem validate_eq_ok_iff {record valid : RouteRecord} :
    record.validate = .ok valid ↔
      isRooted record.path = true ∧ ∃ group, record.effectiveGroup? = some group ∧
        isGroupName group = true ∧ valid = { record with group := some group } := by
  unfold validate
  cases rooted : isRooted record.path with
  | false => simp
  | true =>
      cases effective : record.effectiveGroup? with
      | none => simp
      | some group =>
          cases worded : isGroupName group with
          | false => simp [worded]
          | true => simp [worded, @eq_comm _ valid]

theorem valid_of_validate {record valid : RouteRecord} (passed : record.validate = .ok valid) :
    valid.Valid := by
  obtain ⟨rooted, group, effective, worded, rfl⟩ := validate_eq_ok_iff.mp passed
  exact ⟨rooted, rfl, effectiveGroup?_ne_empty effective, worded⟩

theorem target_of_validate {record valid : RouteRecord} (passed : record.validate = .ok valid) :
    valid.target = record.target := by
  obtain ⟨-, group, -, -, rfl⟩ := validate_eq_ok_iff.mp passed
  rfl

theorem Valid.effectiveGroup? {record : RouteRecord} (valid : record.Valid) :
    record.effectiveGroup? = some record.groupName := by
  have given : record.group.bind given? = some record.groupName := by
    rw [valid.group, Option.bind_some]
    exact given?_eq_some_iff.mpr ⟨rfl, valid.named⟩
  simp [RouteRecord.effectiveGroup?, given]

theorem Valid.validate {record : RouteRecord} (valid : record.Valid) :
    record.validate = .ok record := by
  refine validate_eq_ok_iff.mpr
    ⟨valid.rooted, record.groupName, valid.effectiveGroup?, valid.worded, ?_⟩
  rw [← valid.group]

end RouteRecord

end RouteAtlas
