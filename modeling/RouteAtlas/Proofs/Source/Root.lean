import RouteAtlas.Proofs.Route.Validation
import RouteAtlas.Proofs.Source.Lines
import RouteAtlas.Source.Render

/-! # The source of a root unit

The source of the unit that names the groups of a module determines these groups: one line stands
for each of them, and all else is the same whatever the groups are.
-/

namespace RouteAtlas.Language

/-- The line of one group in a root unit. -/
def rootLine : Language → String × UnitKey → String
  | .kotlin, (group, key) =>
    "routes.put(" ++ Source.Kotlin.literal group ++ ", " ++ Source.Kotlin.className key.name ++
      "::class.java)"
  | .java, (group, key) =>
    "routes.put(" ++ Source.Java.literal group ++ ", " ++ key.name ++ ".class);"

theorem rootLine_kotlin (group : String × UnitKey) :
    kotlin.rootLine group = "routes.put(" ++ Source.Kotlin.literal group.1 ++ ", " ++
      Source.Kotlin.className group.2.name ++ "::class.java)" := rfl

theorem rootLine_java (group : String × UnitKey) :
    java.rootLine group =
      "routes.put(" ++ Source.Java.literal group.1 ++ ", " ++ group.2.name ++ ".class);" := rfl

/-- One step to the right. -/
def margin : Language → String
  | .kotlin => Source.Kotlin.margin
  | .java => Source.Java.margin

/-- The line of one group as it stands in the source. -/
def placedLine (language : Language) (group : String × UnitKey) : String :=
  language.margin ++ (language.margin ++ language.rootLine group)

theorem rootLine_ne_empty (language : Language) (group : String × UnitKey) :
    language.rootLine group ≠ "" := by
  intro vacant
  cases language <;> simpa [rootLine_kotlin, rootLine_java] using congrArg String.toList vacant

theorem indent_rootLines (language : Language) (groups : List (String × UnitKey)) :
    Source.indent language.margin (Source.indent language.margin (groups.map language.rootLine)) =
      groups.map language.placedLine := by
  simp only [Source.indent, List.map_map]
  apply List.map_congr_left
  intro group _
  have kept := language.rootLine_ne_empty group
  have moved : language.margin ++ language.rootLine group ≠ "" :=
    fun vacant => kept (String.append_eq_empty_iff.mp vacant).2
  simp [kept, moved, placedLine]

/-- A root unit is made of lines that stand before those of its groups, these, and others after
    them. -/
theorem lines_root (language : Language) (written : String → String) (name : String) :
    ∃ before after, ∀ groups, language.lines written name (.root groups) =
      before ++ groups.map language.placedLine ++ after := by
  simp only [← indent_rootLines]
  cases language with
  | kotlin => exact ⟨_, _, fun groups => Source.block_block _ _ _ [] _⟩
  | java => exact ⟨_, _, fun groups => Source.block_block _ _ _ ["@Override"] _⟩

/-- The line of a group that goes by its own name. -/
def groupLine (language : Language) (group : String) : String :=
  language.placedLine (group, .group group)

/-- What follows the name of a group in its line. -/
def groupEnd : Language → String → String
  | .kotlin, group => ", " ++ Source.Kotlin.className (UnitKey.group group).name ++ "::class.java)"
  | .java, group => ", " ++ (UnitKey.group group).name ++ ".class);"

theorem toList_groupLine (language : Language) {group : String} (word : isGroupName group = true) :
    (language.groupLine group).toList =
      (language.margin ++ language.margin ++ "routes.put(\"").toList ++
        (group.toList ++ '"' :: (language.groupEnd group).toList) := by
  cases language with
  | kotlin =>
      simp [groupLine, placedLine, rootLine_kotlin, groupEnd, Source.Kotlin.literal,
        Text.literal_word word]
  | java =>
      simp [groupLine, placedLine, rootLine_java, groupEnd, Source.Java.literal,
        Text.literal_word word]

theorem newline_not_mem_groupLine (language : Language) {group : String}
    (word : isGroupName group = true) : '\n' ∉ (language.groupLine group).toList := by
  have absent : '\n' ∉ group.toList := not_mem_of_isGroupName rfl word
  rw [toList_groupLine language word]
  cases language with
  | kotlin =>
      have named : '\n' ∉ (Source.Kotlin.className (UnitKey.group group).name).toList := by
        unfold Source.Kotlin.className UnitKey.group
        split <;> simp [absent, Contract.groupUnit]
      simp [absent, named, groupEnd, margin, Source.Kotlin.margin]
  | java =>
      simp [absent, groupEnd, UnitKey.group, Contract.groupUnit, margin, Source.Java.margin]

theorem groupLine_injective {language : Language} {group other : String}
    (word : isGroupName group = true) (otherWord : isGroupName other = true)
    (same : language.groupLine group = language.groupLine other) : group = other := by
  have letters := congrArg String.toList same
  rw [toList_groupLine language word, toList_groupLine language otherWord] at letters
  have rest := List.append_cancel_left letters
  apply String.toList_injective
  exact (Source.append_mark_injective (not_mem_of_isGroupName rfl word)
    (not_mem_of_isGroupName rfl otherWord) rest).1

theorem map_groupLine_injective {language : Language} {groups others : List String}
    (words : ∀ group ∈ groups, isGroupName group = true)
    (otherWords : ∀ group ∈ others, isGroupName group = true)
    (same : groups.map language.groupLine = others.map language.groupLine) : groups = others := by
  induction groups generalizing others with
  | nil => exact (List.map_eq_nil_iff.mp same.symm).symm
  | cons group rest ih =>
      cases others with
      | nil => simp at same
      | cons other later =>
          simp only [List.map_cons, List.cons.injEq] at same
          rw [groupLine_injective (words group List.mem_cons_self)
              (otherWords other List.mem_cons_self) same.1,
            ih (fun group member => words group (List.mem_cons_of_mem _ member))
              (fun group member => otherWords group (List.mem_cons_of_mem _ member)) same.2]

/-- The body of a root unit over groups that go by their own names. -/
def rootBody (groups : List String) : UnitBody :=
  .root (groups.map fun group => (group, .group group))

/-- What a root unit mentions does not depend on its groups. -/
theorem imports_rootBody (language : Language) (key : UnitKey) (groups originating : List String) :
    language.imports ⟨key, rootBody groups, originating⟩ =
      language.imports ⟨key, .root [], []⟩ := by
  cases language <;> rfl

/-- The source of a root unit determines its groups. -/
theorem rootBody_injective {language : Language} {key : UnitKey} {groups others : List String}
    {originating originating' : List String}
    (words : ∀ group ∈ groups, isGroupName group = true)
    (otherWords : ∀ group ∈ others, isGroupName group = true)
    (same : language.source ⟨key, rootBody groups, originating⟩ =
      language.source ⟨key, rootBody others, originating'⟩) : groups = others := by
  obtain ⟨before, after, framed⟩ :=
    language.lines_root (language.imports ⟨key, .root [], []⟩).written key.name
  have placed : ∀ names : List String,
      (names.map fun group => (group, UnitKey.group group)).map language.placedLine =
        names.map language.groupLine := by
    intro names
    rw [List.map_map]
    rfl
  simp only [source, imports_rootBody] at same
  rw [rootBody, rootBody, framed, framed, placed, placed] at same
  have letters := congrArg String.toList same
  simp only [String.toList_append, Source.unlines_append] at letters
  have body := List.append_cancel_left letters
  have middle := List.append_cancel_left (List.append_cancel_right body)
  have lines := Source.unlines_injective ?_ ?_ (String.toList_injective middle)
  · exact map_groupLine_injective words otherWords lines
  · intro line member
    obtain ⟨group, known, rfl⟩ := List.mem_map.mp member
    exact newline_not_mem_groupLine language (words group known)
  · intro line member
    obtain ⟨group, known, rfl⟩ := List.mem_map.mp member
    exact newline_not_mem_groupLine language (otherWords group known)

end RouteAtlas.Language
