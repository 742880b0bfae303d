import RouteAtlas.Text.Literal
import RouteAtlas.Toml.Scanner
import RouteAtlas.Toml.Value

/-! # TOML numbers, truth values and dates

The words of a document that are neither strings nor containers. Of numbers and truth values only
the form is checked; dates and times are brought into normal form.
-/

namespace RouteAtlas.Toml.Scalar

/-- A character of a number, a truth value or a date. -/
def isWordChar (c : Char) : Bool :=
  c.isAlphanum || c = '_' || c = '+' || c = '-' || c = '.' || c = ':'

/-- A text without the sign that it may start with. -/
def unsigned : List Char → List Char
  | '+' :: rest | '-' :: rest => rest
  | cs => cs

/-- Value of digits of a base up to sixteen, which may have single underscores between them. -/
def grouped? (base : Nat) (cs : List Char) : Option Nat :=
  if (cs.splitOn '_').any List.isEmpty then none
  else
    (cs.filter fun c => c ≠ '_').foldl (fun sofar c => do
      let digit ← Text.hexDigit? c
      if digit < base then return (← sofar) * base + digit else none) (some 0)

/-- Value of decimal digits without a superfluous zero in front. -/
def decimal? : List Char → Option Nat
  | '0' :: _ :: _ => none
  | cs => grouped? 10 cs

/-- A whole number of 64 bits. -/
def isInteger : List Char → Bool
  | '0' :: 'x' :: rest => (grouped? 16 rest).any (· < Nat.pow 2 63)
  | '0' :: 'o' :: rest => (grouped? 8 rest).any (· < Nat.pow 2 63)
  | '0' :: 'b' :: rest => (grouped? 2 rest).any (· < Nat.pow 2 63)
  | '-' :: rest => (decimal? rest).any (· ≤ Nat.pow 2 63)
  | cs => (decimal? (unsigned cs)).any (· < Nat.pow 2 63)

/-- Whether a number with the given digits, scaled by a power of ten, is beyond all doubles. -/
def isHuge (digits : Nat) (power : Int) : Bool :=
  let magnitude := (Nat.toDigits 10 digits).length + power
  if digits = 0 || magnitude ≤ 308 then false
  else if 310 < magnitude then true
  else
    (Nat.pow 2 1024 - Nat.pow 2 970) * Nat.pow 10 (-power).toNat
      ≤ digits * Nat.pow 10 power.toNat

/-- A number with a fraction or an exponent, or one that is none. A positive one must be within the
    range of doubles. -/
def isFloat (cs : List Char) : Bool :=
  let body := unsigned cs
  if body = ['i', 'n', 'f'] || body = ['n', 'a', 'n'] then true
  else
    let mantissa := body.takeWhile fun c => c ≠ 'e' && c ≠ 'E'
    let whole := mantissa.takeWhile (· ≠ '.')
    let places := mantissa.drop (whole.length + 1)
    let exponent := body.drop (mantissa.length + 1)
    let fraction? := if mantissa.length = whole.length then some 0 else grouped? 10 places
    let exponent? :=
      if body.length = mantissa.length then some 0 else grouped? 10 (unsigned exponent)
    match decimal? whole, fraction?, exponent? with
    | some units, some fraction, some scale =>
      let count := (places.filter (· ≠ '_')).length
      let signed : Int := if exponent.head? = some '-' then -scale else scale
      body.length ≠ whole.length
        && (cs.head? = some '-' || !isHuge (units * Nat.pow 10 count + fraction) (signed - count))
    | _, _, _ => false

/-- Value of plain decimal digits. -/
def number? (cs : List Char) : Option Nat :=
  if cs.all Char.isDigit then grouped? 10 cs else none

/-- How many days a month has. -/
def daysIn (year month : Nat) : Nat :=
  if month = 2 then
    if year % 4 = 0 && (year % 100 ≠ 0 || year % 400 = 0) then 29 else 28
  else if month = 4 || month = 6 || month = 9 || month = 11 then 30
  else 31

def isDate : List Char → Bool
  | [a, b, c, d, '-', e, f, '-', g, h] =>
    match number? [a, b, c, d], number? [e, f], number? [g, h] with
    | some year, some month, some day =>
      1 ≤ month && month ≤ 12 && 1 ≤ day && day ≤ daysIn year month
    | _, _, _ => false
  | _ => false

def isHourMinute : List Char → Bool
  | [a, b, ':', c, d] => (number? [a, b]).any (· ≤ 23) && (number? [c, d]).any (· ≤ 59)
  | _ => false

/-- Places of a second as they are shown: the first nine, without zeros at the end. -/
def shownFraction (places : List Char) : List Char :=
  match ((places.take 9).reverse.dropWhile (· = '0')).reverse with
  | [] => []
  | kept => '.' :: kept

/-- Normal form of a time of the day, where the last minute may have a second more. -/
def time? (cs : List Char) : Option (List Char) :=
  if isHourMinute (cs.take 5) then
    match cs.drop 5 with
    | [':', a, b] => if (number? [a, b]).any (· ≤ 60) then some cs else none
    | ':' :: a :: b :: '.' :: places =>
      if (number? [a, b]).any (· ≤ 60) && (number? places).isSome then
        some (cs.take 8 ++ shownFraction places)
      else none
    | _ => none
  else none

/-- Normal form of the zone that a time is for. -/
def zone? : List Char → Option (List Char)
  | ['Z'] | ['z'] => some ['Z']
  | sign :: offset =>
    if (sign = '+' || sign = '-') && isHourMinute offset then
      some ((if offset.all fun c => c = '0' || c = ':' then '+' else sign) :: offset)
    else none
  | [] => none

def isTimeChar (c : Char) : Bool :=
  c.isDigit || c = ':' || c = '.'

/-- Normal form of a time of the day with the zone that it may be for. -/
def zonedTime? (cs : List Char) : Option (List Char) := do
  let time ← time? (cs.takeWhile isTimeChar)
  match cs.dropWhile isTimeChar with
  | [] => return time
  | zone => return time ++ (← zone? zone)

/-- Normal form of a date and the time that follows it, where something stands between them. -/
def dateTime? (date time : List Char) : Option (List Char) :=
  if isDate date then (zonedTime? time).map fun shown => date ++ 'T' :: shown else none

/-- Normal form of a date, a time, or both with a letter between them. -/
def moment? (word : List Char) : Option (List Char) :=
  if isDate word then some word
  else if word[10]? = some 'T' || word[10]? = some 't' then
    dateTime? (word.take 10) (word.drop 11)
  else time? word

/-- Whether a word is a number or a truth value. -/
def isPlain (word : List Char) : Bool :=
  word = ['t', 'r', 'u', 'e'] || word = ['f', 'a', 'l', 's', 'e'] || isInteger word || isFloat word

def ofWord? (word : List Char) : Option Value :=
  match moment? word with
  | some shown => some (.moment (String.ofList shown))
  | none => if isPlain word then some .scalar else none

/-- Scan a number, a truth value, a date or a time. A blank may stand between a date and its
    time. -/
def scan : Scanner Value := fun cs =>
  let word := cs.takeWhile isWordChar
  let rest := cs.dropWhile isWordChar
  let next := if rest.head? = some ' ' then rest.tail else []
  match dateTime? word (next.takeWhile isWordChar) with
  | some shown => some (.moment (String.ofList shown), next.dropWhile isWordChar)
  | none => (ofWord? word).map (·, rest)

end RouteAtlas.Toml.Scalar
