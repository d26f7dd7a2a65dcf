import PackGate.Decimal.Shortest
import PackGate.Text.Quoted
import PackGate.Yaml.Document

/-! The value that a scalar stands for: nothing, a truth value, a number or text. -/

namespace PackGate.Yaml

/-- The value of a scalar. -/
inductive Value where
  /-- Nothing. -/
  | null
  /-- A truth value. -/
  | bool (value : Bool)
  /-- An integer, and the type it needs when 64 bits are too few. -/
  | int (value : Int) (wide : Option String)
  /-- A number with a fraction or an exponent. -/
  | float (value : Float)
  /-- Text. -/
  | text (value : String)

namespace Value

/-- Whether a scalar is a spelling of nothing. -/
def isNull (text : String) : Bool :=
  text == "null" || text == "Null" || text == "NULL" || text == "~"

/-- The truth value that a scalar spells. -/
def bool? (text : String) : Option Bool :=
  if text == "true" || text == "True" || text == "TRUE" then some true
  else if text == "false" || text == "False" || text == "FALSE" then some false
  else none

/-- The value of a digit in the given base. -/
def digit? (base : Nat) (c : Char) : Option Nat :=
  (hexValue? c).filter (· < base)

/-- The natural number that digits of the given base spell. -/
def digits? (base : Nat) (digits : List Char) : Option Nat :=
  if digits.isEmpty then none
  else digits.foldlM (fun total c => (digit? base c).map (total * base + ·)) 0

/-- Text without one sign in front. -/
def withoutSign : List Char → List Char
  | '+' :: rest => rest
  | '-' :: rest => rest
  | letters => letters

/-- Whether digits begin with a zero that makes them text. -/
def isZeroLed (letters : List Char) : Bool :=
  match withoutSign letters with
  | '0' :: c :: rest => (c :: rest).all Char.isDigit
  | _ => false

/-- The digits behind a base mark, with their base. -/
def based? : List Char → Option (Nat × List Char)
  | '0' :: 'x' :: rest => some (16, rest)
  | '0' :: 'o' :: rest => some (8, rest)
  | '0' :: 'b' :: rest => some (2, rest)
  | _ => none

/-- The natural number below `limit` that a scalar spells, with or without a plus sign. -/
def unsigned? (limit : Nat) (text : String) : Option Nat :=
  let letters := text.toList
  let unsigned := match letters with
    | '+' :: rest => rest
    | _ => letters
  match based? unsigned with
  | some (base, rest) => (digits? base rest).filter (· < limit)
  | none => if isZeroLed letters then none else (digits? 10 unsigned).filter (· < limit)

/-- The integer that a scalar with a minus sign spells, at least `-limit`. -/
def negative? (limit : Nat) (text : String) : Option Int :=
  match text.toList with
  | '-' :: rest =>
    let magnitude := match based? rest with
      | some (base, digits) => digits? base digits
      | none => if isZeroLed rest then none else digits? 10 rest
    (magnitude.filter (· ≤ limit)).map fun value => -(value : Int)
  | _ => none

/-- The integer that a scalar spells, in the narrowest type that holds it. -/
def int? (text : String) : Option Value :=
  match unsigned? (Nat.pow 2 64) text, negative? (Nat.pow 2 63) text with
  | some value, _ => some (.int value none)
  | none, some value => some (.int value none)
  | none, none =>
    match unsigned? (Nat.pow 2 128) text, negative? (Nat.pow 2 127) text with
    | some value, _ => some (.int value (some "u128"))
    | none, some value => some (.int value (some "i128"))
    | none, none => none

/-- The exponent behind a mantissa: nothing, or a mark, a sign and digits. -/
def exponent? : List Char → Option Int
  | [] => some 0
  | c :: rest =>
    if c == 'e' || c == 'E' then
      match rest with
      | '-' :: digits => (digits? 10 digits).map fun value => -(value : Int)
      | '+' :: digits => (digits? 10 digits).map Int.ofNat
      | digits => (digits? 10 digits).map Int.ofNat
    else none

/-- The float nearest to `mantissa * 10 ^ scale`. -/
-- Beyond four hundred places on either side the result is certain without the power.
def nearestFloat (mantissa : Nat) (scale : Int) : Float :=
  let size : Int := (Nat.toDigits 10 mantissa).length
  if mantissa = 0 || size + scale < -400 then 0.0
  else if 400 < size + scale then 1.0 / 0.0
  else if 0 ≤ scale then Float.ofScientific mantissa false scale.toNat
  else Float.ofScientific mantissa true (-scale).toNat

/-- The finite float that unsigned decimal text spells. -/
def decimal? (letters : List Char) : Option Float :=
  let whole := letters.takeWhile Char.isDigit
  let behind := letters.dropWhile Char.isDigit
  let (fraction, tail) := match behind with
    | '.' :: rest => (rest.takeWhile Char.isDigit, rest.dropWhile Char.isDigit)
    | rest => ([], rest)
  match digits? 10 (whole ++ fraction), exponent? tail with
  | some mantissa, some power =>
    let value := nearestFloat mantissa (power - fraction.length)
    if value.isInf then none else some value
  | _, _ => none

/-- The float that a scalar spells. -/
def float? (text : String) : Option Float :=
  let unsigned := match text.toList with
    | '+' :: rest => rest
    | letters => letters
  let plus := text.toList.head? == some '+'
  let spelled := String.ofList unsigned
  if spelled == ".inf" || spelled == ".Inf" || spelled == ".INF" then some (1.0 / 0.0)
  else if text == "-.inf" || text == "-.Inf" || text == "-.INF" then some (-1.0 / 0.0)
  else if text == ".nan" || text == ".NaN" || text == ".NAN" then some (0.0 / 0.0)
  else match unsigned with
    | '-' :: rest => if plus then none else (decimal? rest).map Float.neg
    | '+' :: rest => if plus then none else decimal? rest
    | rest => decimal? rest

/-- The value of a plain scalar. -/
def ofPlain (text : String) : Value :=
  if text.isEmpty || isNull text then .null
  else match bool? text, int? text with
    | some value, _ => .bool value
    | none, some value => value
    | none, none =>
      if isZeroLed text.toList then .text text
      else match float? text with
        | some value => .float value
        | none => .text text

/-- The value as it is named where another was expected. -/
def describe : Value → String
  | .null => "unit value"
  | .bool value => s!"boolean `{value}`"
  | .int value none => s!"integer `{value}`"
  | .int value (some type) => s!"integer `{value}` as {type}"
  | .float value => s!"floating point `{Decimal.Shortest.text value}`"
  | .text value => s!"string {Text.Quoted.encode value}"

end Value

/-- The full form of a standard tag. -/
def standardTag (name : String) : String :=
  "tag:yaml.org,2002:" ++ name

/-- What is wrong with a scalar where something of another type was expected. -/
-- A standard tag makes its own demand on the text; a tag of the document's own asks for nothing.
def misfit (tag : Tag) (text : String) (style : Style) (expected : String) : String :=
  let wrongType (value : Value) : String :=
    s!"invalid type: {value.describe}, expected {expected}"
  let wrongValue (what : String) : String :=
    s!"invalid value: string {Text.Quoted.encode text}, expected {what}"
  match tag with
  | none => wrongType (if style == .plain then Value.ofPlain text else .text text)
  | some tag =>
    if tag == standardTag "bool" then
      match Value.bool? text with
      | some value => wrongType (.bool value)
      | none => wrongValue "a boolean"
    else if tag == standardTag "int" then
      match Value.int? text with
      | some value => wrongType value
      | none => wrongValue "an integer"
    else if tag == standardTag "float" then
      match Value.float? text with
      | some value => wrongType (.float value)
      | none => wrongValue "a float"
    else if tag == standardTag "null" then
      if Value.isNull text then wrongType .null else wrongValue "null"
    else if tag.startsWith "!" && style == .plain then wrongType (Value.ofPlain text)
    else wrongType (.text text)

end PackGate.Yaml
