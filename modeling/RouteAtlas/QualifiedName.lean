/-! # Qualified names

A declaration is known by a dotted name. What follows the last dot is its simple name, what
precedes it is its package; a name without a dot lies in the default package.
-/

namespace RouteAtlas.QualifiedName

/-- Split at the last occurrence of `mark`: what precedes it and what follows it. -/
def splitLast (mark : Char) : List Char → Option (List Char × List Char)
  | [] => none
  | c :: rest =>
    match splitLast mark rest with
    | some (before, after) => some (c :: before, after)
    | none => if c = mark then some ([], rest) else none

/-- Last segment of a qualified name: `a.b.Main` gives `Main`. -/
def simple (name : String) : String :=
  match splitLast '.' name.toList with
  | some (_, after) => String.ofList after
  | none => name

/-- All segments but the last: `a.b.Main` gives `a.b`, and `Main` the empty text. -/
def package (name : String) : String :=
  match splitLast '.' name.toList with
  | some (before, _) => String.ofList before
  | none => ""

/-- The characters allowed in the name of a generated unit: `[0-9A-Za-z_]`. -/
def isWordChar (c : Char) : Bool :=
  c.isAlphanum || c == '_'

/-- Drop every character that may not stand in the name of a generated unit. -/
def sanitize (raw : String) : String :=
  String.ofList (raw.toList.filter isWordChar)

theorem splitLast_eq_none_iff {mark : Char} {cs : List Char} :
    splitLast mark cs = none ↔ mark ∉ cs := by
  induction cs with
  | nil => simp [splitLast]
  | cons c rest ih =>
    cases found : splitLast mark rest with
    | some parts => simp [splitLast, found, ← ih]
    | none =>
      have absent := ih.mp found
      by_cases here : c = mark
      · simp [splitLast, found, here]
      · simp [splitLast, found, here, absent, Ne.symm here]

/-- Nothing is lost by splitting: the parts stand around the mark. -/
theorem eq_append_of_splitLast {mark : Char} {cs before after : List Char}
    (split : splitLast mark cs = some (before, after)) : cs = before ++ mark :: after := by
  induction cs generalizing before with
  | nil => simp [splitLast] at split
  | cons c rest ih =>
    cases found : splitLast mark rest with
    | some parts =>
      obtain ⟨b, a⟩ := parts
      simp only [splitLast, found, Option.some.injEq, Prod.mk.injEq] at split
      obtain ⟨rfl, rfl⟩ := split
      simp [← ih found]
    | none =>
      by_cases here : c = mark
      · simp only [splitLast, found, here, if_true, Option.some.injEq, Prod.mk.injEq] at split
        simp [← split.1, ← split.2, here]
      · simp [splitLast, found, here] at split

end RouteAtlas.QualifiedName
