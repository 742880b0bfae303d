/-! # Scanning a TOML text

A scanner takes some characters off the front of a text, or fails. Blanks, line ends and comments
are what may stand between the parts of a document.
-/

namespace RouteAtlas.Toml

/-- What takes a part off the front of a text. -/
abbrev Scanner := StateT (List Char) Option

def isBlank (c : Char) : Bool :=
  c = ' ' || c = '\t'

/-- A character that may stand in comments and literal strings. -/
def isPrintable (c : Char) : Bool :=
  c = '\t' || (0x20 ≤ c.toNat && c.toNat ≠ 0x7f)

/-- Skip blanks, line ends and comments. `comment` says whether the text starts within a comment;
    a comment runs to the end of its line. -/
def dropGap (comment : Bool) : List Char → Option (List Char)
  | [] => some []
  | '\n' :: rest => dropGap false rest
  | '\r' :: '\n' :: rest => dropGap false rest
  | c :: rest =>
    if comment then
      if isPrintable c then dropGap true rest else none
    else if c = '#' then dropGap true rest
    else if isBlank c then dropGap false rest
    else some (c :: rest)

/-- Whether nothing but a comment is left of a line, where blanks were skipped. -/
def atLineEnd : List Char → Bool
  | [] | '\n' :: _ | '\r' :: '\n' :: _ | '#' :: _ => true
  | _ => false

namespace Scanner

def blanks : Scanner Unit := fun cs => some ((), cs.dropWhile isBlank)

/-- Skip blanks, line ends and comments. -/
def gap : Scanner Unit := fun cs => (dropGap false cs).map ((), ·)

/-- The next character, which stays. -/
def peek : Scanner (Option Char) := fun cs => some (cs.head?, cs)

/-- Take a given character, if it is the next one, and say whether it was. -/
def accept (c : Char) : Scanner Bool := fun cs =>
  match cs with
  | d :: rest => if d = c then some (true, rest) else some (false, cs)
  | [] => some (false, cs)

/-- Take a given character. -/
def expect (c : Char) : Scanner Unit := do
  if !(← accept c) then failure

/-- See that nothing but a comment is left of the line. -/
def lineEnd : Scanner Unit := fun cs =>
  let rest := cs.dropWhile isBlank
  if atLineEnd rest then some ((), rest) else none

/-- Scan items at most `count` times, as long as each says that another one follows. -/
def chainAtMost {α : Type} (item : Scanner (α × Bool)) : Nat → Scanner (List α)
  | 0 => failure
  | count + 1 => do
    let (value, more) ← item
    if more then return value :: (← chainAtMost item count) else return [value]

/-- Scan items, as long as each says that another one follows. An item takes at least one
    character, so there are at most as many as the text has characters. -/
def chain {α : Type} (item : Scanner (α × Bool)) : Scanner (List α) := fun cs =>
  chainAtMost item cs.length cs

end Scanner

end RouteAtlas.Toml
