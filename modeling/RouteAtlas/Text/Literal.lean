import RouteAtlas.Text.Ranges

/-! # Quoted texts

Texts between double quotes, as literals of generated sources and inside messages, and the
hexadecimal digits of escapes.
-/

namespace RouteAtlas.Text

/-! ## Hexadecimal digits -/

/-- The lower-case hexadecimal digit of a number below sixteen. -/
def hexDigit (n : Nat) : Char :=
  if n < 10 then Char.ofNat (48 + n) else Char.ofNat (87 + n)

def hexDigit? (c : Char) : Option Nat :=
  if '0' ≤ c && c ≤ '9' then some (c.toNat - 48)
  else if 'a' ≤ c && c ≤ 'f' then some (c.toNat - 87)
  else if 'A' ≤ c && c ≤ 'F' then some (c.toNat - 55)
  else none

/-- Value of hexadecimal digits. -/
def hex? (digits : List Char) : Option Nat :=
  digits.foldl (fun sofar c => do return (← sofar) * 16 + (← hexDigit? c)) (some 0)

/-! ## String literals of generated sources

A backslash, a quote and the control characters with a short escape are written as escapes, and so
is a dollar where the language gives it a meaning.
-/

/-- Written form of one character inside a literal. -/
def literalChar (escapeDollar : Bool) (c : Char) : List Char :=
  if c = '\\' then ['\\', '\\']
  else if c = '"' then ['\\', '"']
  else if c = '\n' then ['\\', 'n']
  else if c = '\r' then ['\\', 'r']
  else if c = '\t' then ['\\', 't']
  else if c = '$' && escapeDollar then ['\\', '$']
  else [c]

def literal (raw : String) (escapeDollar : Bool) : String :=
  String.ofList ('"' :: raw.toList.flatMap (literalChar escapeDollar) ++ ['"'])

/-! ## Visible form

A text shown inside a message has an escape for each character that would not show.
-/

/-- Visible form of one character inside double quotes. -/
def visibleChar (c : Char) : List Char :=
  if c = '"' then ['\\', '"']
  else if c = '\\' then ['\\', '\\']
  else if c = '\n' then ['\\', 'n']
  else if c = '\r' then ['\\', 'r']
  else if c = '\t' then ['\\', 't']
  else if c = '\x00' then ['\\', '0']
  else if c.toNat < 0x20 || c.toNat = 0x7f || (0x80 ≤ c.toNat && inRanges hiddenRanges c) then
    '\\' :: 'u' :: '\x7b' :: (Nat.toDigits 16 c.toNat ++ ['\x7d'])
  else [c]

/-- Visible form of a text, between double quotes. -/
def visible (text : String) : String :=
  String.ofList ('"' :: text.toList.flatMap visibleChar ++ ['"'])

end RouteAtlas.Text
