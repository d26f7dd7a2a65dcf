import PackGate.Decimal.Binary64

/-!
Digits of a binary64 number found with 64-bit products alone. They read back, and in almost all
cases they are the shortest; the last digit is not always the nearest.
-/

namespace PackGate.Decimal.Estimate

/-- A positive number with a 64-bit significand: `significand * 2 ^ exponent`. -/
structure Scaled where
  /-- The significand. -/
  significand : Nat
  /-- The power of two that scales it. -/
  exponent : Int

namespace Scaled

/-- The same number with the top bit of its 64-bit significand set. -/
def normalize (x : Scaled) : Scaled :=
  let shift := 63 - Nat.log2 x.significand
  ⟨x.significand * Nat.pow 2 shift, x.exponent - shift⟩

/-- The product, its significand rounded to the nearest 64-bit integer. -/
def mul (x y : Scaled) : Scaled :=
  ⟨(x.significand * y.significand + Nat.pow 2 63) / Nat.pow 2 64, x.exponent + y.exponent + 64⟩

/-- A power of ten with its significand rounded to 64 bits. -/
def powerOfTen (power : Int) : Scaled :=
  if 0 ≤ power then
    let exact := Nat.pow 10 power.toNat
    let bits := Nat.log2 exact + 1
    if bits ≤ 64 then ⟨exact * Nat.pow 2 (64 - bits), (bits : Int) - 64⟩
    else ⟨(exact + Nat.pow 2 (bits - 65)) / Nat.pow 2 (bits - 64), (bits : Int) - 64⟩
  else
    let divisor := Nat.pow 10 (-power).toNat
    let bits := Nat.log2 divisor + 1
    ⟨(Nat.pow 2 (64 + bits) / divisor + 1) / 2, -(63 + bits : Int)⟩

end Scaled

/-- The power of ten, a multiple of eight plus four, that brings a number near `2 ^ -60`. -/
-- The real logarithm is taken as a fraction of a million millions, which separates all exponents.
def scalingPower (exponent : Int) : Int :=
  let estimate : Int := (-61 - exponent) * 301029995664 + 347 * 1000000000000
  let ceiling := -((-estimate) / 1000000000000)
  (ceiling / 8 + 1) * 8 - 348

/-- Lowers the last digit while that brings it nearer to the exact value. -/
def approach (delta step target : Nat) : Nat → Nat → Nat → Nat
  | 0, _, digits => digits
  | fuel + 1, rest, digits =>
    if rest < target ∧ step ≤ delta - rest ∧
        (rest + step < target ∨ rest + step - target < target - rest) then
      approach delta step target fuel (rest + step) (digits - 1)
    else digits

/-- Takes digits from the integral part until the remainder falls within `delta`. -/
-- The result is the digits, the power of ten of the last one, and whether to go on.
def integralDigits (unit delta target fractional : Nat) :
    Nat → Nat → Nat → Nat × Nat × Bool
  | 0, _, digits => (digits, 0, false)
  | places + 1, integral, digits =>
    let weight := Nat.pow 10 places
    let taken := digits * 10 + integral / weight
    let left := integral % weight
    let rest := left * unit + fractional
    if rest ≤ delta then (approach delta (weight * unit) target 10 rest taken, places, true)
    else integralDigits unit delta target fractional places left taken

/-- Takes digits from the fraction until the remainder falls below the growing `delta`. -/
def fractionalDigits (unit target : Nat) : Nat → Nat → Nat → Nat → Nat → Nat × Nat
  | 0, place, _, _, digits => (digits, place)
  | fuel + 1, place, delta, fractional, digits =>
    let scaled := fractional * 10
    let widened := delta * 10
    let taken := digits * 10 + scaled / unit
    let rest := scaled % unit
    let here := place + 1
    if rest < widened then
      -- Beyond eight places the target no longer fits and the digits stay as they are.
      let aim := if here < 9 then target * Nat.pow 10 here else 0
      (approach widened unit aim 10 rest taken, here)
    else fractionalDigits unit target fuel here widened rest taken

/-- The digits of a positive binary64 number. -/
def digits (number : Binary64) : Digits :=
  let m := number.significand
  let upper := Scaled.normalize ⟨2 * m + 1, number.exponent - 1⟩
  let lower : Scaled :=
    if m = Binary64.hiddenBit then ⟨4 * m - 1, number.exponent - 2⟩
    else ⟨2 * m - 1, number.exponent - 1⟩
  let lowered := lower.significand * Nat.pow 2 (lower.exponent - upper.exponent).toNat
  let power := scalingPower upper.exponent
  let ten := Scaled.powerOfTen power
  let centre := (Scaled.normalize ⟨m, number.exponent⟩).mul ten
  let high := (upper.mul ten).significand - 1
  let low := ((⟨lowered, upper.exponent⟩ : Scaled).mul ten).significand + 1
  let delta := high - low
  let target := high - centre.significand
  let unit := Nat.pow 2 (-centre.exponent).toNat
  let integral := high / unit
  let fractional := high % unit
  let places := (Nat.toDigits 10 integral).length
  match integralDigits unit delta target fractional places integral 0 with
  | (taken, weight, true) => ⟨taken, (weight : Int) - power⟩
  | (taken, _, false) =>
    let (all, here) := fractionalDigits unit target 20 0 delta fractional taken
    ⟨all, -(here : Int) - power⟩

/-- A binary64 number as text: in full from `1e-6` up to 21 digits, else with an exponent. -/
def text (value : Float) : String :=
  let bits := value.toBits
  let number := Binary64.ofBits bits
  let sign := if number.negative then ['-'] else []
  if Binary64.isSpecial bits then
    if bits.toNat % Binary64.hiddenBit = 0 then String.ofList (sign ++ ['i', 'n', 'f']) else "NaN"
  else if number.significand = 0 then String.ofList (sign ++ ['0', '.', '0'])
  else
    let found := digits number
    let point := found.toList.length + found.scale
    let body :=
      if -6 < point ∧ point ≤ 21 then
        let full := found.positional
        if 0 ≤ found.scale then full ++ ['.', '0'] else full
      else found.scientific
    String.ofList (sign ++ body)

end PackGate.Decimal.Estimate
