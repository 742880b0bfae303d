import RouteAtlas.QualifiedName
import RouteAtlas.Source.Basic
import RouteAtlas.Text.Literal

/-! # Reading lines back

A source is read back line by line, since no line holds a line break, and a literal up to its
closing quote.
-/

namespace RouteAtlas

namespace Source

theorem toList_unlines (lines : List String) :
    (unlines lines).toList = lines.flatMap fun line => line.toList ++ ['\n'] := by
  simp [unlines, List.flatMap_map]

theorem unlines_append (first second : List String) :
    unlines (first ++ second) = unlines first ++ unlines second := by
  apply String.toList_injective
  simp [toList_unlines]

/-- A block at the end of a block, opened up. -/
theorem block_block (margin outer inner : String) (before body : List String) :
    block margin outer (before ++ block margin inner body) =
      ((outer ++ " \x7b") :: indent margin (before ++ [inner ++ " \x7b"])) ++
        indent margin (indent margin body) ++ (indent margin ["\x7d"] ++ ["\x7d"]) := by
  simp [block, indent]

/-- What stands before the first occurrence of a mark can be read back. -/
theorem append_mark_injective {mark : Char} {before after before' after' : List Char}
    (absent : mark ∉ before) (absent' : mark ∉ before')
    (same : before ++ mark :: after = before' ++ mark :: after') :
    before = before' ∧ after = after' := by
  induction before generalizing before' with
  | nil =>
      cases before' with
      | nil => simpa using same
      | cons c rest =>
          injection same with here _
          exact absurd (here ▸ List.mem_cons_self) absent'
  | cons c rest ih =>
      cases before' with
      | nil =>
          injection same with here _
          exact absurd (here ▸ List.mem_cons_self) absent
      | cons c' rest' =>
          injection same with here later
          obtain ⟨rests, afters⟩ := ih (List.not_mem_of_not_mem_cons absent)
            (List.not_mem_of_not_mem_cons absent') later
          exact ⟨by rw [here, rests], afters⟩

theorem unlines_injective {lines lines' : List String}
    (whole : ∀ line ∈ lines, '\n' ∉ line.toList) (whole' : ∀ line ∈ lines', '\n' ∉ line.toList)
    (same : unlines lines = unlines lines') : lines = lines' := by
  induction lines generalizing lines' with
  | nil =>
      cases lines' with
      | nil => rfl
      | cons => simpa [toList_unlines] using congrArg String.toList same
  | cons line rest ih =>
      cases lines' with
      | nil => simpa [toList_unlines] using congrArg String.toList same
      | cons line' rest' =>
          have letters := congrArg String.toList same
          simp only [toList_unlines, List.flatMap_cons, List.append_assoc,
            List.singleton_append] at letters
          obtain ⟨first, others⟩ := append_mark_injective (whole line List.mem_cons_self)
            (whole' line' List.mem_cons_self) letters
          rw [← toList_unlines, ← toList_unlines] at others
          rw [String.toList_injective first,
            ih (fun l later => whole l (List.mem_cons_of_mem _ later))
              (fun l later => whole' l (List.mem_cons_of_mem _ later))
              (String.toList_injective others)]

end Source

namespace Text

theorem literalChar_word {c : Char} (word : QualifiedName.isWordChar c = true)
    (escapeDollar : Bool) : literalChar escapeDollar c = [c] := by
  have other : ∀ special, QualifiedName.isWordChar special = false → c ≠ special := by
    intro special plain same
    rw [same, plain] at word
    cases word
  simp [literalChar, other '\\' rfl, other '"' rfl, other '\n' rfl, other '\r' rfl,
    other '\t' rfl, other '$' rfl]

theorem literal_word {raw : String} (word : raw.toList.all QualifiedName.isWordChar = true)
    (escapeDollar : Bool) : (literal raw escapeDollar).toList = '"' :: raw.toList ++ ['"'] := by
  have same : raw.toList.flatMap (literalChar escapeDollar) = raw.toList := by
    generalize raw.toList = letters at word
    induction letters with
    | nil => rfl
    | cons c rest ih =>
        rw [List.all_cons, Bool.and_eq_true] at word
        rw [List.flatMap_cons, literalChar_word word.1, ih word.2]
        rfl
  rw [literal, String.toList_ofList, same]

end Text

end RouteAtlas
