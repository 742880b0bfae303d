import RouteAtlas.Text.Literal
import RouteAtlas.Toml.Scanner

/-! # TOML strings

The four forms of strings: between double quotes with escapes or between single quotes without, each
on one line or, between triple quotes, on several. Reading takes all of them; writing chooses the
first form that shows the text without escapes.
-/

namespace RouteAtlas.Toml.Quoted

/-- The contents of a string and what follows its closing quote. -/
abbrev Closed := Option (List Char × List Char)

/-- Put characters in front of the contents. -/
def keep (cs : List Char) (closed : Closed) : Closed :=
  closed.map fun (content, rest) => (cs ++ content, rest)

/-- Put the character with a code point in front of the contents, if there is one. -/
def keepPoint (digits : List Char) (closed : Closed) : Closed := do
  let point ← Text.hex? digits
  if point.isValidChar then keep [Char.ofNat point] closed else none

/-- What a backslash with one more character stands for. -/
def escaped? (c : Char) : Option Char :=
  if c = '"' || c = '\\' then some c
  else if c = 'b' then some '\x08'
  else if c = 't' then some '\t'
  else if c = 'n' then some '\n'
  else if c = 'f' then some '\x0c'
  else if c = 'r' then some '\r'
  else none

/-- Read a string between double quotes, from behind the opening one. -/
def basic : List Char → Closed
  | [] => none
  | '"' :: rest => some ([], rest)
  | '\\' :: 'u' :: a :: b :: c :: d :: rest => keepPoint [a, b, c, d] (basic rest)
  | '\\' :: 'U' :: a :: b :: c :: d :: e :: f :: g :: h :: rest =>
    keepPoint [a, b, c, d, e, f, g, h] (basic rest)
  | '\\' :: c :: rest => (escaped? c).bind fun plain => keep [plain] (basic rest)
  | c :: rest => if isPrintable c && c ≠ '\\' then keep [c] (basic rest) else none

/-- Read a string between single quotes, from behind the opening one. -/
def literal : List Char → Closed
  | [] => none
  | '\'' :: rest => some ([], rest)
  | c :: rest => if isPrintable c then keep [c] (literal rest) else none

/-- How a line end after a backslash is met. -/
inductive Fold where
  /-- Not behind a backslash. -/
  | plain
  /-- Behind a backslash, where only blanks may stand before the line end. -/
  | pending
  /-- Behind the line end, where blanks and line ends are skipped. -/
  | margin
  deriving DecidableEq

/-- Read a string between three double quotes, from behind the opening ones. Up to two quotes may
    stand directly before the closing ones. -/
def basicLines : Fold → List Char → Closed
  | _, [] => none
  | .pending, '\r' :: '\n' :: rest | .pending, '\n' :: rest => basicLines .margin rest
  | .pending, c :: rest => if isBlank c then basicLines .pending rest else none
  | .margin, '\r' :: '\n' :: rest | .margin, '\n' :: rest | .margin, ' ' :: rest
  | .margin, '\t' :: rest => basicLines .margin rest
  | _, '"' :: '"' :: '"' :: '"' :: '"' :: rest => some (['"', '"'], rest)
  | _, '"' :: '"' :: '"' :: '"' :: rest => some (['"'], rest)
  | _, '"' :: '"' :: '"' :: rest => some ([], rest)
  | _, '\r' :: '\n' :: rest | _, '\n' :: rest => keep ['\n'] (basicLines .plain rest)
  | _, '\\' :: 'u' :: a :: b :: c :: d :: rest => keepPoint [a, b, c, d] (basicLines .plain rest)
  | _, '\\' :: 'U' :: a :: b :: c :: d :: e :: f :: g :: h :: rest =>
    keepPoint [a, b, c, d, e, f, g, h] (basicLines .plain rest)
  | _, '\\' :: '\r' :: '\n' :: rest | _, '\\' :: '\n' :: rest => basicLines .margin rest
  | _, '\\' :: c :: rest =>
    if isBlank c then basicLines .pending rest
    else (escaped? c).bind fun plain => keep [plain] (basicLines .plain rest)
  | _, c :: rest =>
    if isPrintable c && c ≠ '\\' then keep [c] (basicLines .plain rest) else none

/-- Read a string between three single quotes, from behind the opening ones. Up to two quotes may
    stand directly before the closing ones. -/
def literalLines : List Char → Closed
  | [] => none
  | '\'' :: '\'' :: '\'' :: '\'' :: '\'' :: rest => some (['\'', '\''], rest)
  | '\'' :: '\'' :: '\'' :: '\'' :: rest => some (['\''], rest)
  | '\'' :: '\'' :: '\'' :: rest => some ([], rest)
  | '\r' :: '\n' :: rest | '\n' :: rest => keep ['\n'] (literalLines rest)
  | c :: rest => if isPrintable c then keep [c] (literalLines rest) else none

/-- Drop a line end that directly follows the opening quotes. -/
def dropFirstLineEnd : List Char → List Char
  | '\r' :: '\n' :: rest | '\n' :: rest => rest
  | cs => cs

def scanLine : Scanner String := fun cs =>
  (match cs with
    | '"' :: rest => basic rest
    | '\'' :: rest => literal rest
    | _ => none).map fun (content, rest) => (String.ofList content, rest)

/-- Scan a string of any form. -/
def scan : Scanner String := fun cs =>
  match cs with
  | '"' :: '"' :: '"' :: rest =>
    (basicLines .plain (dropFirstLineEnd rest)).map fun (content, rest) =>
      (String.ofList content, rest)
  | '\'' :: '\'' :: '\'' :: rest =>
    (literalLines (dropFirstLineEnd rest)).map fun (content, rest) =>
      (String.ofList content, rest)
  | cs => scanLine cs

/-- Whether a character needs an escape in every form. -/
def isControl (c : Char) : Bool :=
  (c.toNat < 0x20 && c ≠ '\t' && c ≠ '\n') || c.toNat = 0x7f

def longestRun (quote : Char) : Nat → List Char → Nat
  | run, [] => run
  | run, c :: rest =>
    if c = quote then longestRun quote (run + 1) rest else max run (longestRun quote 0 rest)

/-- Escape of a character other than a quote between double quotes. -/
def escapeChar (lines : Bool) (c : Char) : List Char :=
  if c = '\\' then ['\\', '\\']
  else if c = '\x08' then ['\\', 'b']
  else if c = '\t' then ['\\', 't']
  else if c = '\n' && !lines then ['\\', 'n']
  else if c = '\x0c' then ['\\', 'f']
  else if c = '\r' then ['\\', 'r']
  else if isControl c then
    ['\\', 'u', '0', '0', (Text.hexDigit (c.toNat / 16)).toUpper,
      (Text.hexDigit (c.toNat % 16)).toUpper]
  else [c]

/-- Escape contents between double quotes. On several lines two quotes in a row may stand as they
    are; `run` counts those before. -/
def escape (lines : Bool) : Nat → List Char → List Char
  | _, [] => []
  | run, c :: rest =>
    if c = '"' then
      if lines && run < 2 then c :: escape lines (run + 1) rest
      else '\\' :: c :: escape lines 0 rest
    else escapeChar lines c ++ escape lines 0 rest

/-- Written form on one line between double quotes. -/
def writeBasic (content : List Char) : List Char :=
  '"' :: escape false 0 content ++ ['"']

/-- Written form between three double quotes. Contents of several lines start on a new one. -/
def writeBasicLines (content : List Char) : List Char :=
  ['"', '"', '"'] ++ (if content.contains '\n' then ['\n'] else []) ++ escape true 0 content
    ++ ['"', '"', '"']

/-- Written form on one line between single quotes. -/
def writeLiteral (content : List Char) : List Char :=
  '\'' :: content ++ ['\'']

/-- Written form between three single quotes. Contents of several lines start on a new one. -/
def writeLiteralLines (content : List Char) : List Char :=
  ['\'', '\'', '\''] ++ (if content.contains '\n' then ['\n'] else []) ++ content
    ++ ['\'', '\'', '\'']

/-- Written form of a text: the first form without escapes, else the form between double quotes that
    its line ends ask for. -/
def write (content : List Char) : List Char :=
  let plain := !content.any isControl
  let slashed := content.contains '\\'
  let lines := content.contains '\n'
  let doubles := longestRun '"' 0 content
  let singles := longestRun '\'' 0 content
  if plain && !slashed && !lines && doubles = 0 then writeBasic content
  else if plain && !lines && singles = 0 then writeLiteral content
  else if plain && !slashed && doubles ≤ 2 then writeBasicLines content
  else if plain && singles ≤ 2 then writeLiteralLines content
  else if lines then writeBasicLines content
  else writeBasic content

end RouteAtlas.Toml.Quoted
