/-! # Shortest decimal text of a double

The fewest decimal digits that read back to the same double, and of those the nearest to it. The
digits are found in exact arithmetic; a layout says how they are written down.
-/

namespace RouteAtlas.Text.Decimal

/-- A double without its sign: the value is `mantissa * 2 ^ power`. -/
structure Binary where
  mantissa : Nat
  power : Int
  /-- Whether the next double below lies only half as far away as the next one above. -/
  lowerGapHalved : Bool

/-- Magnitude of the finite double with the given bits. -/
def Binary.ofBits (bits : UInt64) : Binary :=
  let field := ((bits >>> 52) &&& 0x7ff).toNat
  let fraction := (bits &&& 0xfffffffffffff).toNat
  if field = 0 then ⟨fraction, -1074, false⟩
  else ⟨fraction + Nat.pow 2 52, field - 1075, fraction == 0 && 1 < field⟩

/-- A decimal number: the value is `digits * 10 ^ power`. -/
structure Digits where
  digits : Nat
  power : Int

/-- Largest exponent `e` with `10 ^ e` at most `top / bottom`, for a positive quotient. -/
def tenPower (top bottom : Nat) : Int :=
  if bottom ≤ top then ((Nat.toDigits 10 (top / bottom)).length : Int) - 1
  else
    match (List.range 400).find? fun j => bottom ≤ top * Nat.pow 10 j with
    | some j => -(j : Int)
    | none => -400

/-- The point of the grid of `count` digits that reads back to the double and lies nearest to it,
    if one does. -/
def onGrid (value : Binary) (count : Nat) : Option Digits :=
  let scale := 4 * value.mantissa
  let up := Nat.pow 2 value.power.toNat
  let bottom := Nat.pow 2 (-value.power).toNat
  let top := value.mantissa * up
  let low := (scale - if value.lowerGapHalved then 1 else 2) * up
  let high := (scale + 2) * up
  let step := tenPower top bottom - (count : Int) + 1
  let stepUp := Nat.pow 10 step.toNat
  let stepDown := Nat.pow 10 (-step).toNat
  let below := top * stepDown / (bottom * stepUp)
  let readsBack := fun (point : Nat) =>
    let scaled := 4 * point * stepUp * bottom
    if value.mantissa % 2 = 0 then low * stepDown ≤ scaled && scaled ≤ high * stepDown
    else low * stepDown < scaled && scaled < high * stepDown
  let above := below + 1
  let distanceBelow := top * stepDown - below * stepUp * bottom
  let distanceAbove := above * stepUp * bottom - top * stepDown
  match readsBack below, readsBack above with
  | true, true =>
    if distanceBelow < distanceAbove || (distanceBelow = distanceAbove && below % 2 = 0)
    then some ⟨below, step⟩ else some ⟨above, step⟩
  | true, false => some ⟨below, step⟩
  | false, true => some ⟨above, step⟩
  | false, false => none

/-- The fewest digits that read back to a positive double. -/
def shortest (value : Binary) : Digits :=
  ((List.range 17).findSome? fun index => onGrid value (index + 1)).getD ⟨0, 0⟩

/-- How decimal digits are written down. -/
structure Layout where
  /-- Least exponent of the first digit that is written in positional form. -/
  leastPositional : Int
  /-- Least exponent of the first digit, above that, that is written in scientific form. -/
  leastScientific : Int

/-- Write decimal digits of a positive number. -/
def Layout.write (layout : Layout) (number : Digits) : List Char :=
  let all := Nat.toDigits 10 number.digits
  let kept := (all.reverse.dropWhile (· == '0')).reverse
  let exponent : Int := number.power + all.length - 1
  if layout.leastPositional ≤ exponent && exponent < layout.leastScientific then
    if exponent < 0 then '0' :: '.' :: (List.replicate (-exponent - 1).toNat '0' ++ kept)
    else
      let places := exponent.toNat + 1
      let whole := kept.take places ++ List.replicate (places - kept.length) '0'
      let fraction := kept.drop places
      whole ++ '.' :: (if fraction.isEmpty then ['0'] else fraction)
  else
    let mantissa := match kept with
      | [] => []
      | [first] => [first]
      | first :: rest => first :: '.' :: rest
    mantissa ++ 'e' :: (if exponent < 0 then '-' else '+') ::
      Nat.toDigits 10 exponent.natAbs

/-- Write the finite double with the given bits. Zero has the form `0.0`, with its sign. -/
def Layout.writeDouble (layout : Layout) (bits : UInt64) : String :=
  let sign := if bits >>> 63 = 1 then ['-'] else []
  let value := Binary.ofBits bits
  String.ofList <| sign ++
    if value.mantissa = 0 then ['0', '.', '0'] else layout.write (shortest value)

end RouteAtlas.Text.Decimal
