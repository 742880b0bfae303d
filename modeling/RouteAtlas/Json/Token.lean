import RouteAtlas.Json.Numeral
import RouteAtlas.Text.Literal

/-! # Tokens of a JSON text

A text is cut into tokens once, from left to right. What is no token ends the list as a fault, so a
reader of tokens meets the fault exactly where the text goes wrong.
-/

namespace RouteAtlas.Json

inductive Token where
  | beginArray
  | endArray
  | beginObject
  | endObject
  | colon
  | comma
  | null
  | bool (value : Bool)
  | number (numeral : Numeral)
  | text (content : String)
  /-- A string with an escaped half of a surrogate pair, which stands for no text. -/
  | unpaired
  /-- Something that is no token. -/
  | fault
  deriving DecidableEq, Repr

namespace Token

/-- The blanks that may stand between tokens. -/
def isBlank (c : Char) : Bool :=
  c = ' ' || c = '\t' || c = '\n' || c = '\r'

/-- What a backslash with one more character stands for. -/
def escaped? (c : Char) : Option Char :=
  if c = '"' || c = '\\' || c = '/' then some c
  else if c = 'b' then some '\x08'
  else if c = 'f' then some '\x0c'
  else if c = 'n' then some '\n'
  else if c = 'r' then some '\r'
  else if c = 't' then some '\t'
  else none

/-- Read the inside of a string up to its closing quote: the code points, halves of surrogate pairs
    among them, and what follows the quote. `sofar` holds the code points before, latest first. -/
def scanText (sofar : List Nat) : List Char → Option (List Nat × List Char)
  | [] => none
  | '"' :: rest => some (sofar.reverse, rest)
  | '\\' :: 'u' :: a :: b :: c :: d :: rest =>
    match Text.hex? [a, b, c, d] with
    | some point => scanText (point :: sofar) rest
    | none => none
  | '\\' :: e :: rest =>
    match escaped? e with
    | some c => scanText (c.toNat :: sofar) rest
    | none => none
  | c :: rest => if c = '\\' || c.toNat < 0x20 then none else scanText (c.toNat :: sofar) rest

theorem length_scanText_le {sofar points : List Nat} {cs after : List Char}
    (scanned : scanText sofar cs = some (points, after)) : after.length ≤ cs.length := by
  fun_induction scanText sofar cs with
  | case1 => simp at scanned
  | case2 => simp only [Option.some.injEq, Prod.mk.injEq] at scanned; simp [← scanned.2]
  | case3 _ _ _ _ _ _ _ _ ih => have := ih scanned; simp; omega
  | case4 => simp at scanned
  | case5 _ _ _ _ _ _ ih => have := ih scanned; simp; omega
  | case6 => simp at scanned
  | case7 => simp at scanned
  | case8 _ _ _ _ _ _ _ ih => have := ih scanned; simp; omega

/-- Join halves of surrogate pairs; `none` if a half stands alone. -/
def joinPairs : List Nat → Option (List Char)
  | [] => some []
  | point :: rest =>
    if 0xd800 ≤ point && point ≤ 0xdbff then
      match rest with
      | low :: rest' =>
        if 0xdc00 ≤ low && low ≤ 0xdfff then
          (joinPairs rest').map
            (Char.ofNat (0x10000 + (point - 0xd800) * 0x400 + (low - 0xdc00)) :: ·)
        else none
      | [] => none
    else if 0xdc00 ≤ point && point ≤ 0xdfff then none
    else (joinPairs rest).map (Char.ofNat point :: ·)

/-- The token of a string with the given code points. -/
def ofPoints (points : List Nat) : Token :=
  match joinPairs points with
  | some cs => .text (String.ofList cs)
  | none => .unpaired

/-- Read one token from a text that does not start with a blank, and what follows it. -/
def scanOne : List Char → Option (Token × List Char)
  | [] => none
  | '[' :: rest => some (.beginArray, rest)
  | ']' :: rest => some (.endArray, rest)
  | '\x7b' :: rest => some (.beginObject, rest)
  | '\x7d' :: rest => some (.endObject, rest)
  | ':' :: rest => some (.colon, rest)
  | ',' :: rest => some (.comma, rest)
  | '"' :: rest => (scanText [] rest).map fun scanned => (ofPoints scanned.1, scanned.2)
  | 'n' :: 'u' :: 'l' :: 'l' :: rest => some (.null, rest)
  | 't' :: 'r' :: 'u' :: 'e' :: rest => some (.bool true, rest)
  | 'f' :: 'a' :: 'l' :: 's' :: 'e' :: rest => some (.bool false, rest)
  | cs => (Numeral.scan cs).map fun scanned => (.number scanned.1, scanned.2)

theorem length_scanOne_lt {cs after : List Char} {token : Token}
    (scanned : scanOne cs = some (token, after)) : after.length < cs.length := by
  unfold scanOne at scanned
  split at scanned
  case h_8 =>
    obtain ⟨inner, found, same⟩ := Option.map_eq_some_iff.mp scanned
    have := length_scanText_le found
    simp only [Prod.mk.injEq] at same
    simp only [List.length_cons, ← same.2]
    omega
  case h_12 =>
    obtain ⟨inner, found, same⟩ := Option.map_eq_some_iff.mp scanned
    have := Numeral.length_scan_lt found
    simp only [Prod.mk.injEq] at same
    simpa only [← same.2] using this
  all_goals simp at scanned
  all_goals simp [← scanned.2]
  all_goals omega

/-- Cut a text into tokens. -/
def scan : List Char → List Token
  | [] => []
  | c :: rest =>
    if isBlank c then scan rest
    else
      match _found : scanOne (c :: rest) with
      | none => [.fault]
      | some (token, after) => token :: scan after
termination_by cs => cs.length
decreasing_by
  · simp
  · exact length_scanOne_lt _found

end Token

end RouteAtlas.Json
