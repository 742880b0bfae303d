import RouteAtlas.Text.Literal

/-! # Literals are closed and lossless

A literal is read from its opening quote to the first quote that no backslash stands before. However
backslashes, quotes and dollars follow one another in a text, its literal is read up to its own end,
whatever comes after it, and gives the text back.
-/

namespace RouteAtlas.Text

/-- A character between the quotes of a literal, either by itself or behind a backslash. -/
inductive Glyph where
  | plain (c : Char)
  | escaped (c : Char)
  deriving DecidableEq, Repr

namespace Glyph

def spelled : Glyph → List Char
  | .plain c => [c]
  | .escaped c => ['\\', c]

/-- What a glyph stands for. There are six escapes, that of the dollar only where it is escaped. -/
def meaning? (escapeDollar : Bool) : Glyph → Option Char
  | .plain c => some c
  | .escaped c =>
    if c = 'n' then some '\n'
    else if c = 'r' then some '\r'
    else if c = 't' then some '\t'
    else if c = '\\' ∨ c = '"' ∨ c = '$' ∧ escapeDollar = true then some c
    else none

end Glyph

/-- The glyphs up to the closing quote, and what follows it. A backslash may have been read just
    before. -/
def scanGlyphs (behindBackslash : Bool) : List Char → Option (List Glyph × List Char)
  | [] => none
  | c :: rest =>
    if behindBackslash then (scanGlyphs false rest).map (Prod.map (.escaped c :: ·) id)
    else if c = '"' then some ([], rest)
    else if c = '\\' then scanGlyphs true rest
    else (scanGlyphs false rest).map (Prod.map (.plain c :: ·) id)

/-- The glyphs of the literal that a text begins with, and what follows its closing quote. -/
def scanLiteral : List Char → Option (List Glyph × List Char)
  | [] => none
  | c :: rest => if c = '"' then scanGlyphs false rest else none

/-- Glyphs are read one by one if no quote or backslash stands there by itself. -/
theorem scanGlyphs_spelled {glyphs : List Glyph} {rest : List Char}
    (unquoted : .plain '"' ∉ glyphs) (bare : .plain '\\' ∉ glyphs) :
    scanGlyphs false (glyphs.flatMap Glyph.spelled ++ '"' :: rest) = some (glyphs, rest) := by
  induction glyphs with
  | nil => rfl
  | cons glyph glyphs ih =>
      have later := ih (List.not_mem_of_not_mem_cons unquoted) (List.not_mem_of_not_mem_cons bare)
      rw [List.flatMap_cons, List.append_assoc]
      cases glyph with
      | escaped c => simp [Glyph.spelled, scanGlyphs, later]
      | plain c =>
          have noQuote : c ≠ '"' := fun same => unquoted (same ▸ List.mem_cons_self)
          have noBackslash : c ≠ '\\' := fun same => bare (same ▸ List.mem_cons_self)
          simp [Glyph.spelled, scanGlyphs, noQuote, noBackslash, later]

section Written

variable {escapeDollar : Bool} {c d : Char}

/-- The glyph that a character is written as. -/
def glyphOf (escapeDollar : Bool) (c : Char) : Glyph :=
  if c = '\\' ∨ c = '"' ∨ c = '$' ∧ escapeDollar = true then .escaped c
  else if c = '\n' then .escaped 'n'
  else if c = '\r' then .escaped 'r'
  else if c = '\t' then .escaped 't'
  else .plain c

theorem spelled_glyphOf (escapeDollar : Bool) (c : Char) :
    (glyphOf escapeDollar c).spelled = literalChar escapeDollar c := by
  grind [glyphOf, literalChar, Glyph.spelled]

theorem meaning?_glyphOf (escapeDollar : Bool) (c : Char) :
    (glyphOf escapeDollar c).meaning? escapeDollar = some c := by
  grind [glyphOf, Glyph.meaning?]

/-- What stands by itself has no other meaning, neither in a literal nor in a source. -/
theorem not_special_of_plain (written : glyphOf escapeDollar c = .plain d) :
    d ≠ '\\' ∧ d ≠ '"' ∧ (escapeDollar = true → d ≠ '$') := by
  grind [glyphOf]

theorem not_break_of_mem_spelled (member : d ∈ (glyphOf escapeDollar c).spelled) :
    d ≠ '\n' ∧ d ≠ '\r' := by
  grind [glyphOf, Glyph.spelled]

/-- The glyphs between the quotes of a literal. -/
def glyphs (escapeDollar : Bool) (raw : String) : List Glyph :=
  raw.toList.map (glyphOf escapeDollar)

theorem not_special_of_mem_glyphs {raw : String} (member : .plain d ∈ glyphs escapeDollar raw) :
    d ≠ '\\' ∧ d ≠ '"' ∧ (escapeDollar = true → d ≠ '$') := by
  obtain ⟨c, -, written⟩ := List.mem_map.mp member
  exact not_special_of_plain written

theorem toList_literal (raw : String) (escapeDollar : Bool) :
    (literal raw escapeDollar).toList =
      '"' :: (glyphs escapeDollar raw).flatMap Glyph.spelled ++ ['"'] := by
  have inside : (glyphs escapeDollar raw).flatMap Glyph.spelled =
      raw.toList.flatMap (literalChar escapeDollar) := by
    rw [glyphs, List.flatMap_map]
    exact congrArg raw.toList.flatMap (funext (spelled_glyphOf escapeDollar))
  rw [literal, String.toList_ofList, inside]

/-- A literal is read up to its own end, whatever follows. -/
theorem scanLiteral_literal (raw : String) (escapeDollar : Bool) (rest : String) :
    scanLiteral (literal raw escapeDollar ++ rest).toList =
      some (glyphs escapeDollar raw, rest.toList) := by
  have unquoted : .plain '"' ∉ glyphs escapeDollar raw :=
    fun member => (not_special_of_mem_glyphs member).2.1 rfl
  have bare : .plain '\\' ∉ glyphs escapeDollar raw :=
    fun member => (not_special_of_mem_glyphs member).1 rfl
  rw [String.toList_append, toList_literal, List.append_assoc, List.singleton_append,
    List.cons_append, scanLiteral, if_pos rfl, scanGlyphs_spelled unquoted bare]

theorem mapM_meaning?_glyphs (raw : String) (escapeDollar : Bool) :
    (glyphs escapeDollar raw).mapM (Glyph.meaning? escapeDollar) = some raw.toList := by
  rw [glyphs]
  induction raw.toList with
  | nil => rfl
  | cons c rest ih => simp [meaning?_glyphOf, ih]

end Written

/-- A text is written as a literal with some glyphs between its quotes. -/
structure IsLiteral (escapeDollar : Bool) (raw written : String) (between : List Glyph) :
    Prop where
  spelled : written.toList = '"' :: between.flatMap Glyph.spelled ++ ['"']
  /-- Whatever follows the literal, it is read up to its own end. -/
  closed : ∀ rest : String, scanLiteral (written ++ rest).toList = some (between, rest.toList)
  /-- The literal stands in one line. -/
  oneLine : ∀ c ∈ between.flatMap Glyph.spelled, c ≠ '\n' ∧ c ≠ '\r'
  unquoted : .plain '"' ∉ between
  noTemplate : escapeDollar = true → .plain '$' ∉ between
  /-- Every escape is one of those there are, and undoing them gives the text back. -/
  undone : between.mapM (Glyph.meaning? escapeDollar) = some raw.toList

/-- What holds of the literal of a text. -/
structure LiteralLaw (raw : String) (escapeDollar : Bool) : Prop where
  written : ∃ between, IsLiteral escapeDollar raw (literal raw escapeDollar) between
  apart : ∀ other, literal raw escapeDollar = literal other escapeDollar → raw = other
  /-- Two texts that begin with literals have the same one, and go on alike, if they are the same. -/
  split : ∀ other rest rest', literal raw escapeDollar ++ rest = literal other escapeDollar ++ rest' →
    raw = other ∧ rest = rest'

/-- No text breaks out of its literal or is changed by it. -/
theorem literalLaw_of_text (raw : String) (escapeDollar : Bool) : LiteralLaw raw escapeDollar := by
  have split : ∀ other rest rest',
      literal raw escapeDollar ++ rest = literal other escapeDollar ++ rest' →
        raw = other ∧ rest = rest' := by
    intro other rest rest' same
    have scanned := scanLiteral_literal raw escapeDollar rest
    rw [same, scanLiteral_literal, Option.some.injEq, Prod.mk.injEq] at scanned
    obtain ⟨between, after⟩ := scanned
    have meaning := mapM_meaning?_glyphs other escapeDollar
    rw [between, mapM_meaning?_glyphs, Option.some.injEq] at meaning
    exact ⟨String.toList_injective meaning, String.toList_injective after.symm⟩
  constructor
  case written =>
    exact ⟨glyphs escapeDollar raw, {
      spelled := toList_literal raw escapeDollar
      closed := scanLiteral_literal raw escapeDollar
      oneLine := by
        intro d member
        obtain ⟨glyph, inGlyphs, inSpelled⟩ := List.mem_flatMap.mp member
        obtain ⟨c, -, rfl⟩ := List.mem_map.mp inGlyphs
        exact not_break_of_mem_spelled inSpelled
      unquoted := fun member => (not_special_of_mem_glyphs member).2.1 rfl
      noTemplate := fun escaped member => (not_special_of_mem_glyphs member).2.2 escaped rfl
      undone := mapM_meaning?_glyphs raw escapeDollar }⟩
  case apart => exact fun other same => (split other "" "" (by rw [same])).1
  case split => exact split

/-- Backslashes, quotes and dollars next to one another, with a quote after the literal. -/
example : scanLiteral (literal "\\\"$\\" true ++ "\" + x").toList =
    some ([.escaped '\\', .escaped '"', .escaped '$', .escaped '\\'], "\" + x".toList) := by
  decide

end RouteAtlas.Text
