import RouteAtlas.Text.Decimal

/-! # Numerals of a JSON text

A numeral is kept digit by digit as it was written, since a skipped numeral may be of any size. Only
reading it gives it a value: an integer of 64 bits, or the double that the digits approximate.
-/

namespace RouteAtlas.Json

/-- A numeral as written, in decimal digits. -/
structure Numeral where
  /-- Whether a minus sign leads it. -/
  negative : Bool
  /-- The digits before the point, at least one, and no zero in front of others. -/
  whole : List Nat
  /-- The digits after the point; none means that there is no point. -/
  fraction : List Nat := []
  exponent : Option (Bool × List Nat) := none
  deriving DecidableEq, Repr

namespace Numeral

def digit? (c : Char) : Option Nat :=
  if c.isDigit then some (c.toNat - 48) else none

/-- The digits that a text starts with, and what follows them. -/
def spanDigits : List Char → List Nat × List Char
  | [] => ([], [])
  | c :: rest =>
    match digit? c with
    | some d => (d :: (spanDigits rest).1, (spanDigits rest).2)
    | none => ([], c :: rest)

theorem length_spanDigits (cs : List Char) :
    (spanDigits cs).1.length + (spanDigits cs).2.length = cs.length := by
  induction cs with
  | nil => simp [spanDigits]
  | cons c rest ih =>
    cases found : digit? c with
    | some d => simp only [spanDigits, found, List.length_cons]; omega
    | none => simp [spanDigits, found]

/-- Read an exponent if the text starts with one. `none` is a broken exponent. -/
def scanExponent : List Char → Option (Option (Bool × List Nat) × List Char)
  | c :: rest =>
    if c = 'e' || c = 'E' then
      let (negative, body) := match rest with
        | '-' :: body => (true, body)
        | '+' :: body => (false, body)
        | body => (false, body)
      match spanDigits body with
      | ([], _) => none
      | (digits, after) => some (some (negative, digits), after)
    else some (none, c :: rest)
  | [] => some (none, [])

/-- Read a fraction if the text starts with one. `none` is a point without digits. -/
def scanFraction : List Char → Option (List Nat × List Char)
  | '.' :: rest =>
    match spanDigits rest with
    | ([], _) => none
    | (digits, after) => some (digits, after)
  | cs => some ([], cs)

/-- Read a numeral without its sign. -/
def scanUnsigned (negative : Bool) (cs : List Char) : Option (Numeral × List Char) := do
  let (whole, afterWhole) := spanDigits cs
  if whole.isEmpty || (whole.head? == some 0 && 1 < whole.length) then none
  let (fraction, afterFraction) ← scanFraction afterWhole
  let (exponent, after) ← scanExponent afterFraction
  some (⟨negative, whole, fraction, exponent⟩, after)

/-- Read the numeral that a text starts with, and what follows it. -/
def scan : List Char → Option (Numeral × List Char)
  | '-' :: rest => scanUnsigned true rest
  | cs => scanUnsigned false cs

theorem length_scanExponent_le {cs after : List Char} {exponent : Option (Bool × List Nat)}
    (scanned : scanExponent cs = some (exponent, after)) : after.length ≤ cs.length := by
  cases cs with
  | nil => simp [scanExponent] at scanned; simp [scanned.2.symm]
  | cons c rest =>
    simp only [scanExponent] at scanned
    split at scanned
    · split at scanned
      · simp at scanned
      · rename_i digits tail _ spanned
        have bound := length_spanDigits
          (match rest with
            | '-' :: body => (true, body)
            | '+' :: body => (false, body)
            | body => (false, body)).2
        rw [spanned] at bound
        simp only [Option.some.injEq, Prod.mk.injEq] at scanned
        rw [← scanned.2]
        split at bound <;> simp at bound ⊢ <;> omega
    · simp only [Option.some.injEq, Prod.mk.injEq] at scanned
      simp [← scanned.2]

theorem length_scanFraction_le {cs after : List Char} {fraction : List Nat}
    (scanned : scanFraction cs = some (fraction, after)) : after.length ≤ cs.length := by
  unfold scanFraction at scanned
  split at scanned
  · rename_i rest
    have bound := length_spanDigits rest
    split at scanned
    · simp at scanned
    · rename_i spanned
      rw [spanned] at bound
      simp only [Option.some.injEq, Prod.mk.injEq] at scanned
      rw [← scanned.2]
      simp at bound ⊢
      omega
  · simp only [Option.some.injEq, Prod.mk.injEq] at scanned
    simp [← scanned.2]

theorem length_scanUnsigned_lt {negative : Bool} {cs after : List Char} {numeral : Numeral}
    (scanned : scanUnsigned negative cs = some (numeral, after)) : after.length < cs.length := by
  unfold scanUnsigned at scanned
  have split := length_spanDigits cs
  simp only [Option.bind_eq_bind] at scanned
  split at scanned
  · simp at scanned
  · rename_i digits
    simp only [Bool.or_eq_true, not_or, List.isEmpty_iff] at digits
    have some_ := List.length_pos_iff.mpr digits.1
    simp only [Option.bind_eq_some_iff, Option.some.injEq, Prod.mk.injEq] at scanned
    obtain ⟨⟨fraction, afterFraction⟩, hFraction, ⟨exponent, tail⟩, hExponent, _, rfl⟩ := scanned
    have first := length_scanExponent_le hExponent
    have second := length_scanFraction_le hFraction
    simp only at first second ⊢
    omega

theorem length_scan_lt {cs after : List Char} {numeral : Numeral}
    (scanned : scan cs = some (numeral, after)) : after.length < cs.length := by
  unfold scan at scanned
  split at scanned
  · have := length_scanUnsigned_lt scanned
    simp only [List.length_cons]
    omega
  · exact length_scanUnsigned_lt scanned

/-- Value of a numeral that was read. -/
inductive Amount where
  /-- An integer of 64 bits, signed or unsigned. -/
  | integer (value : Int)
  /-- A double, by its bits. -/
  | double (bits : UInt64)
  deriving DecidableEq, Repr

/-- Largest number that the digits of a numeral are gathered in. -/
def digitLimit : Nat := Nat.pow 2 64 - 1

/-- Gather digits while they fit: the number so far, how many digits went in, how many did not. -/
def gather (sofar taken : Nat) : List Nat → Nat × Nat × Nat
  | [] => (sofar, taken, 0)
  | d :: rest =>
    if digitLimit < sofar * 10 + d then (sofar, taken, rest.length + 1)
    else gather (sofar * 10 + d) (taken + 1) rest

def ofDigits (digits : List Nat) : Nat :=
  digits.foldl (fun sofar d => sofar * 10 + d) 0

/-- The double nearest to a power of ten. -/
def tenTo (exponent : Nat) : Float :=
  Float.ofScientific 1 false exponent

/-- Divide by a power of ten, in steps that a double can hold. -/
def divideByTenTo (value : Float) (exponent : Nat) : Float :=
  if small : exponent ≤ 308 then value / tenTo exponent
  else if value == 0 then value
  else divideByTenTo (value / tenTo 308) (exponent - 308)
termination_by exponent
decreasing_by omega

/-- Scale gathered digits by a power of ten; `none` beyond the range of doubles. -/
def scale (significand : Nat) (exponent : Int) : Option Float :=
  let value := Float.ofNat significand
  if exponent < 0 then some (divideByTenTo value exponent.natAbs)
  else if 308 < exponent then if significand = 0 then some value else none
  else
    let scaled := value * tenTo exponent.toNat
    if scaled.isInf then none else some scaled

/-- Greatest exponent that is counted out; greater ones mean zero or no number at all. -/
def exponentLimit : Nat := Nat.pow 2 31 - 1

/-- The double that a numeral approximates, without its sign; `none` beyond the range. -/
def magnitude? (numeral : Numeral) : Option Float :=
  let (whole, _, wholeLeft) := gather 0 0 numeral.whole
  let (significand, places, _) := gather whole 0 numeral.fraction
  let exponent : Int := wholeLeft - places
  match numeral.exponent with
  | none => scale significand exponent
  | some (negative, digits) =>
    let written := ofDigits digits
    if exponentLimit < written then
      if significand ≠ 0 && !negative then none else some 0
    else scale significand (if negative then exponent - written else exponent + written)

/-- Value of a numeral: an integer where it is written as one that fits, other than negative zero,
    else a double; `none` beyond the range of doubles. -/
def amount? (numeral : Numeral) : Option Amount :=
  let plain := numeral.fraction.isEmpty && numeral.exponent.isNone
  let whole := ofDigits numeral.whole
  if plain && !numeral.negative && whole ≤ digitLimit then some (.integer whole)
  else if plain && numeral.negative && whole ≠ 0 && whole ≤ Nat.pow 2 63 then
    some (.integer (-whole))
  else
    numeral.magnitude?.map fun value =>
      .double (if numeral.negative then (-value).toBits else value.toBits)

def ofInt (value : Int) : Numeral :=
  ⟨value < 0, (Nat.toDigits 10 value.natAbs).map fun c => c.toNat - 48, [], none⟩

/-- How a double is written in messages: positional from `1e-5` up to below `1e16`, else with an
    exponent. -/
def doubleLayout : Text.Decimal.Layout := ⟨-5, 16⟩

end Numeral

end RouteAtlas.Json
