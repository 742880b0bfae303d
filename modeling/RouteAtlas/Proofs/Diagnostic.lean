import RouteAtlas.Diagnostic

/-! # What a log says

An error is said in its own words, whatever it is. The entries of one severity in a log are those of
its parts, and the log has errors if an entry is one.
-/

namespace RouteAtlas

namespace Text

theorem isInfix_iff {part whole : List Char} : isInfix part whole = true ↔ part <:+: whole := by
  induction whole with
  | nil => simp [isInfix]
  | cons c rest ih =>
      rw [isInfix, Bool.or_eq_true, List.isPrefixOf_iff_prefix, ih, List.infix_cons_iff]

theorem contains_iff {whole part : String} :
    contains whole part = true ↔ part.toList <:+: whole.toList :=
  isInfix_iff

theorem contains_self (text : String) : contains text text = true :=
  contains_iff.mpr (List.infix_refl _)

theorem contains_append_left {first part : String} (here : contains first part = true)
    (second : String) : contains (first ++ second) part = true := by
  rw [contains_iff, String.toList_append]
  exact (contains_iff.mp here).trans (List.prefix_append ..).isInfix

theorem contains_append_right {second part : String} (first : String)
    (here : contains second part = true) : contains (first ++ second) part = true := by
  rw [contains_iff, String.toList_append]
  exact (contains_iff.mp here).trans (List.suffix_append ..).isInfix

end Text

/-- Each error has something to say. -/
theorem BuildError.message_ne_empty (error : BuildError) : error.message ≠ "" := by
  unfold BuildError.message
  split <;> simp

section DuplicatePath

variable (group path existing rejected : String)

theorem BuildError.message_duplicatePath : (duplicatePath group path existing rejected).message =
    "Path [" ++ path ++ "] in group [" ++ group ++ "] is declared by both " ++ existing ++
      " and " ++ rejected := rfl

/-- A path in use is told together with its group. -/
theorem BuildError.contains_place_duplicatePath :
    Text.contains (duplicatePath group path existing rejected).message
      ("Path [" ++ path ++ "] in group [" ++ group ++ "]") = true := by
  have bracket : "] is declared by both " = "]" ++ " is declared by both " := by decide
  rw [message_duplicatePath, bracket]
  simp only [← String.append_assoc]
  exact Text.contains_append_left (Text.contains_append_left (Text.contains_append_left
    (Text.contains_append_left (Text.contains_self _) _) _) _) _

/-- The class that has a path in use is told before the one that is given it again. -/
theorem BuildError.contains_classes_duplicatePath :
    Text.contains (duplicatePath group path existing rejected).message
      (existing ++ " and " ++ rejected) = true := by
  have classes : existing ++ " and " ++ rejected = existing ++ (" and " ++ rejected) :=
    String.append_assoc
  rw [classes, message_duplicatePath, String.append_assoc, String.append_assoc]
  exact Text.contains_append_right _ (Text.contains_self _)

end DuplicatePath

namespace Diagnostics

/-- An error is said in its own words. -/
theorem report_eq (error : BuildError) (symbol : Option String) :
    report error symbol = [⟨.error, error.message, symbol⟩] := by
  rw [report, entry, if_neg (by simpa using error.message_ne_empty)]

theorem info_progress (message : String) :
    info (progress message) = [⟨.info, progress message, none⟩] := by
  simp [info, entry, progress]

@[simp]
theorem withSeverity_nil (severity : Severity) : withSeverity [] severity = [] := rfl

@[simp]
theorem withSeverity_append (first second : Diagnostics) (severity : Severity) :
    (first ++ second).withSeverity severity =
      first.withSeverity severity ++ second.withSeverity severity :=
  List.filter_append ..

theorem withSeverity_flatMap {α : Type} (items : List α) (said : α → Diagnostics)
    (severity : Severity) :
    withSeverity (items.flatMap said) severity =
      items.flatMap fun item => (said item).withSeverity severity :=
  List.filter_flatMap ..

theorem withSeverity_entry (severity other : Severity) (message : String) (symbol : Option String) :
    (entry severity message symbol).withSeverity other =
      if severity = other then entry severity message symbol else [] := by
  unfold entry
  by_cases same : severity = other <;> split <;> simp [withSeverity, same]

@[simp]
theorem errors_info (message : String) : (info message).withSeverity .error = [] :=
  withSeverity_entry ..

@[simp]
theorem errors_warn (message : String) : (warn message).withSeverity .error = [] :=
  withSeverity_entry ..

@[simp]
theorem errors_error (message : String) : (error message).withSeverity .error = error message :=
  withSeverity_entry ..

theorem hasErrors_iff {log : Diagnostics} :
    log.hasErrors = true ↔ log.withSeverity .error ≠ [] := by
  simp [hasErrors]

theorem hasErrors_append_iff {first second : Diagnostics} :
    (first ++ second).hasErrors = true ↔ first.hasErrors = true ∨ second.hasErrors = true := by
  simp only [hasErrors_iff, withSeverity_append, ne_eq, List.append_eq_nil_iff,
    Classical.not_and_iff_not_or_not]

theorem holds_iff {log : Diagnostics} {severity : Severity} {part : String} :
    log.holds severity part = true ↔
      ∃ entry ∈ log, entry.severity = severity ∧ Text.contains entry.message part = true := by
  simp only [holds, withSeverity, List.any_eq_true, List.mem_filter, beq_iff_eq, and_assoc]

theorem holds_of_subset {log other : Diagnostics} (within : log ⊆ other) {severity : Severity}
    {part : String} (held : log.holds severity part = true) : other.holds severity part = true := by
  obtain ⟨entry, said, mentions⟩ := holds_iff.mp held
  exact holds_iff.mpr ⟨entry, within said, mentions⟩

theorem mem_of_mem_withSeverity {log : Diagnostics} {entry : Diagnostic} {severity : Severity}
    (member : entry ∈ log.withSeverity severity) : entry ∈ log :=
  (List.mem_filter.mp member).1

end Diagnostics

end RouteAtlas
