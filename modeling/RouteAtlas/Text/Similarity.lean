import RouteAtlas.Text.CaseTable
import RouteAtlas.Text.Ranges

/-! # Likeness of texts

What a search for a name goes by: the lower case of texts, containment of one text in another, and
their edit distance.
-/

namespace RouteAtlas.Text

/-! ## Lower case

Lower-casing of whole texts by the full rules of the character standard: most characters map one
by one, the dotted capital I becomes two characters, and a capital sigma depends on its place.
-/

/-- Lower-case form of one character, the capital sigma apart. -/
def lowerChar (c : Char) : List Char :=
  if c = '\u0130' then ['i', '\u0307']
  else
    let point := c.toNat
    match lowerCaseRuns.find? fun run =>
        run.first ≤ point && point ≤ run.last && (point - run.first) % run.step == 0 with
    | some run => [Char.ofNat (run.lowered + (point - run.first))]
    | none => [c]

/-- Whether the first character that case rules do not look through is a cased one. -/
def startsCased (cs : List Char) : Bool :=
  match cs.dropWhile (inRanges caseIgnorableRanges) with
  | c :: _ => inRanges casedRanges c
  | [] => false

/-- Lower-case form of a capital sigma: the final form at the end of a word. `before` is what
    precedes it, nearest character first. -/
def lowerSigma (before after : List Char) : Char :=
  if startsCased before && !startsCased after then 'ς' else 'σ'

/-- Lower-case the second list, where `before` precedes it, nearest character first. -/
def lowerAfter (before : List Char) : List Char → List Char
  | [] => []
  | c :: rest =>
    (if c = 'Σ' then [lowerSigma before rest] else lowerChar c) ++ lowerAfter (c :: before) rest

/-- Lower-case form of a text. -/
def lower (text : String) : String :=
  String.ofList (lowerAfter [] text.toList)

/-! ## Containment -/

/-- Whether `part` stands somewhere in `whole`, as characters. -/
def isInfix (part : List Char) : List Char → Bool
  | [] => part.isEmpty
  | c :: rest => part.isPrefixOf (c :: rest) || isInfix part rest

/-- Whether `part` stands somewhere in `whole`. -/
def contains (whole part : String) : Bool :=
  isInfix part.toList whole.toList

/-! ## Edit distance

The least number of insertions, deletions and substitutions of single characters that turn one text
into another.
-/

/-- One row of the distance table: `corner` is the entry above and to the left, the list holds the
    entries above, `left` is the entry before. -/
def distanceRow (c : Char) : Nat → Nat → List (Char × Nat) → List Nat
  | _, _, [] => []
  | corner, left, (d, above) :: rest =>
    let entry := min (min (above + 1) (left + 1)) (corner + if c = d then 0 else 1)
    entry :: distanceRow c above entry rest

/-- The next row: its first entry is one more than that of the row above. -/
def nextRow (other : List Char) (row : List Nat) (c : Char) : List Nat :=
  match row with
  | [] => []
  | first :: above => (first + 1) :: distanceRow c first (first + 1) (other.zip above)

def editDistance (a b : String) : Nat :=
  let first := List.range (b.toList.length + 1)
  (a.toList.foldl (nextRow b.toList) first).getLastD 0

end RouteAtlas.Text
