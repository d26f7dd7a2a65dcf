import PackGate.Decimal.Binary64

/-! The fewest decimal digits that read back as a binary64 number, and the nearest of those. -/

namespace PackGate.Decimal.Shortest

/-- An exact positive value as a fraction, with the interval of reals that round to it. -/
-- All three numerators stand over the same denominator.
structure Interval where
  /-- The numerator of the value. -/
  value : Nat
  /-- The numerator of the lower end. -/
  low : Nat
  /-- The numerator of the upper end. -/
  high : Nat
  /-- The common denominator. -/
  denominator : Nat
  /-- Whether the ends belong to the interval. -/
  closed : Bool

/-- The interval around a positive binary64 value; its ends belong to it when ties go to it. -/
def Interval.ofBinary64 (number : Binary64) : Interval :=
  let m := number.significand
  -- The lower neighbour of a power of two is half as far away as the upper one.
  let near := m == Binary64.hiddenBit && number.exponent != -1074
  let up := Nat.pow 2 number.exponent.toNat
  let down := Nat.pow 2 (-number.exponent).toNat
  { value := 4 * m * up
    low := (if near then 4 * m - 1 else 4 * m - 2) * up
    high := (4 * m + 2) * up
    denominator := 4 * down
    closed := m % 2 == 0 }

/-- Whether the decimal `count * unit` lies in the interval, `unit` being a fraction. -/
def Interval.holds (interval : Interval) (count unitNumerator unitDenominator : Nat) : Bool :=
  let point := count * unitNumerator * interval.denominator
  let low := interval.low * unitDenominator
  let high := interval.high * unitDenominator
  if interval.closed then decide (low ≤ point) && decide (point ≤ high)
  else decide (low < point) && decide (point < high)

/-- How many times a fraction below one must be multiplied by ten to reach one. -/
def leadingZeros (denominator : Nat) : Nat → Nat → Nat
  | 0, _ => 0
  | fuel + 1, numerator =>
    if denominator ≤ numerator then 0
    else leadingZeros denominator fuel (numerator * 10) + 1

/-- The power of ten just above a positive value. -/
def magnitude (interval : Interval) : Int :=
  let whole := interval.value / interval.denominator
  if 0 < whole then (Nat.toDigits 10 whole).length
  else 1 - (leadingZeros interval.denominator 400 interval.value : Int)

/-- The decimal of `places` digits nearest to the value, if one of them reads back as it. -/
def onGrid? (interval : Interval) (top : Int) (places : Nat) : Option Digits :=
  let scale := top - places
  let unitNumerator := Nat.pow 10 scale.toNat
  let unitDenominator := Nat.pow 10 (-scale).toNat
  let below := interval.value * unitDenominator / (interval.denominator * unitNumerator)
  let distanceBelow :=
    interval.value * unitDenominator - below * unitNumerator * interval.denominator
  let distanceAbove :=
    (below + 1) * unitNumerator * interval.denominator - interval.value * unitDenominator
  let lower := interval.holds below unitNumerator unitDenominator
  let upper := interval.holds (below + 1) unitNumerator unitDenominator
  if lower && (!upper || distanceBelow ≤ distanceAbove) then some ⟨below, scale⟩
  else if upper then some ⟨below + 1, scale⟩
  else none

/-- The decimal with the fewest digits that reads back as the positive value. -/
-- Seventeen digits always read back, so the last case is never needed for a binary64 value.
def digits (number : Binary64) : Digits :=
  let interval := Interval.ofBinary64 number
  let top := magnitude interval
  ((List.range' 1 17).findSome? (onGrid? interval top)).getD ⟨0, 0⟩

/-- A decimal without the zeros at its end. -/
def stripZeros : Nat → Digits → Digits
  | 0, digits => digits
  | fuel + 1, digits =>
    if digits.value % 10 = 0 && digits.value != 0 then
      stripZeros fuel ⟨digits.value / 10, digits.scale + 1⟩
    else digits

/-- A binary64 number written out in full with a point: the shortest text that reads back. -/
def text (value : Float) : String :=
  let bits := value.toBits
  let number := Binary64.ofBits bits
  let sign := if number.negative then ['-'] else []
  if Binary64.isSpecial bits then
    if bits.toNat % Binary64.hiddenBit = 0 then String.ofList (sign ++ ['i', 'n', 'f']) else "NaN"
  else
    let body :=
      if number.significand = 0 then ['0'] else (stripZeros 17 (digits number)).positional
    let tail := if body.contains '.' then [] else ['.', '0']
    String.ofList (sign ++ body ++ tail)

end PackGate.Decimal.Shortest
