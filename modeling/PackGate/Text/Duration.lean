/-! Spans of time and their shortest exact text. -/

namespace PackGate

/-- A span of time: whole seconds in a 64-bit word and a fraction in nanoseconds. -/
structure Duration where
  /-- Whole seconds. -/
  seconds : Nat
  /-- Nanoseconds beyond the whole seconds. -/
  nanos : Nat
  /-- The seconds fit a 64-bit word. -/
  seconds_lt : seconds < UInt64.size := by decide
  /-- The fraction is less than a second. -/
  nanos_lt : nanos < 1000000000 := by decide
deriving DecidableEq, Repr

namespace Duration

/-- A span of whole seconds. -/
def ofSeconds (seconds : UInt64) : Duration where
  seconds := seconds.toNat
  nanos := 0
  seconds_lt := seconds.toNat_lt

/-- The span of `seconds` and `nanos`, carrying full seconds; none if the seconds overflow. -/
def ofParts? (seconds nanos : Nat) : Option Duration :=
  let whole := seconds + nanos / 1000000000
  if fits : whole < UInt64.size then
    some ⟨whole, nanos % 1000000000, fits, Nat.mod_lt _ (by decide)⟩
  else none

/-- The span of `millis` thousandths of a second; none if the seconds overflow. -/
def ofMillis? (millis : Nat) : Option Duration :=
  ofParts? (millis / 1000) (millis % 1000 * 1000000)

/-- The span in nanoseconds. -/
def toNanos (span : Duration) : Nat :=
  span.seconds * 1000000000 + span.nanos

/-- The decimal digits of `value`, padded with zeros to `width`. -/
def paddedDigits (width value : Nat) : List Char :=
  let digits := Nat.toDigits 10 value
  List.replicate (width - digits.length) '0' ++ digits

/-- `fraction` thousandths, millionths and so on as text after a point, without trailing zeros. -/
def fractionText (places fraction : Nat) : List Char :=
  if fraction = 0 then []
  else '.' :: ((paddedDigits places fraction).reverse.dropWhile (· == '0')).reverse

/-- The span in its largest unit with a whole part, with every fractional digit it needs. -/
def text (span : Duration) : String :=
  let render (whole places fraction : Nat) (suffix : String) : String :=
    String.ofList (Nat.toDigits 10 whole ++ fractionText places fraction) ++ suffix
  if 0 < span.seconds then render span.seconds 9 span.nanos "s"
  else if 1000000 ≤ span.nanos then render (span.nanos / 1000000) 6 (span.nanos % 1000000) "ms"
  else if 1000 ≤ span.nanos then render (span.nanos / 1000) 3 (span.nanos % 1000) "µs"
  else render span.nanos 0 0 "ns"

end Duration

end PackGate
