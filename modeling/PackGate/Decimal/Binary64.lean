/-! The exact value of a finite binary64 number. -/

namespace PackGate.Decimal

/-- A finite binary64 value: `significand * 2 ^ exponent`, with its sign. -/
structure Binary64 where
  /-- Whether the sign bit is set. -/
  negative : Bool
  /-- The integer significand, with the hidden bit. -/
  significand : Nat
  /-- The power of two that scales the significand. -/
  exponent : Int
deriving DecidableEq, Repr

namespace Binary64

/-- The significand whose lower neighbour lies at half the usual distance. -/
def hiddenBit : Nat :=
  Nat.pow 2 52

/-- The value of a 64-bit pattern, whose exponent field is taken to be finite. -/
def ofBits (bits : UInt64) : Binary64 :=
  let pattern := bits.toNat
  let fraction := pattern % hiddenBit
  let field := pattern / hiddenBit % 2048
  let negative := pattern / Nat.pow 2 63 == 1
  -- A zero exponent field marks a subnormal number, which has no hidden bit.
  if field = 0 then ⟨negative, fraction, -1074⟩
  else ⟨negative, fraction + hiddenBit, (field : Int) - 1075⟩

/-- Whether a 64-bit pattern stands for an infinity or for no number at all. -/
def isSpecial (bits : UInt64) : Bool :=
  bits.toNat / hiddenBit % 2048 == 2047

end Binary64

/-- A positive decimal: the integer that its digits spell, times a power of ten. -/
structure Digits where
  /-- The digits as one integer. -/
  value : Nat
  /-- The power of ten that scales them. -/
  scale : Int
deriving DecidableEq, Repr

namespace Digits

/-- The digits from the most significant on. -/
def toList (digits : Digits) : List Char :=
  Nat.toDigits 10 digits.value

/-- The digits written out in full, with a point only where a fraction remains. -/
def positional (digits : Digits) : List Char :=
  let shown := digits.toList
  if 0 ≤ digits.scale then shown ++ List.replicate digits.scale.toNat '0'
  else
    let places := (-digits.scale).toNat
    if places < shown.length then
      shown.take (shown.length - places) ++ '.' :: shown.drop (shown.length - places)
    else '0' :: '.' :: (List.replicate (places - shown.length) '0' ++ shown)

/-- The digits with a point after the first and the power of ten behind an `e`. -/
def scientific (digits : Digits) : List Char :=
  let shown := digits.toList
  let power := digits.scale + shown.length - 1
  let mantissa := match shown with
    | [] => []
    | [single] => [single]
    | first :: rest => first :: '.' :: rest
  mantissa ++ 'e' :: (toString power).toList

end Digits

end PackGate.Decimal
