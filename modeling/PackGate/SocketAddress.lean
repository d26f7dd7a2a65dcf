/-! Internet addresses with ports: reading and writing their text. -/

namespace PackGate

/-- An internet address. -/
inductive IpAddress where
  /-- Four octets. -/
  | v4 (octets : List Nat)
  /-- Eight groups of 16 bits. -/
  | v6 (groups : List Nat)
deriving DecidableEq, Repr

/-- An address and a port on it. -/
structure SocketAddress where
  /-- The address. -/
  address : IpAddress
  /-- The network zone of a link-local address. -/
  zone : Nat := 0
  /-- The port. -/
  port : Nat
deriving DecidableEq, Repr

namespace SocketAddress

/-! ## Reading

Every reader takes what it can from the front of the text and gives back the rest, or nothing.
-/

/-- The value of a digit in the given base. -/
def digit? (base : Nat) (c : Char) : Option Nat :=
  let value? :=
    if c.isDigit then some (c.toNat - '0'.toNat)
    else if 'a' ≤ c ∧ c ≤ 'f' then some (c.toNat - 'a'.toNat + 10)
    else if 'A' ≤ c ∧ c ≤ 'F' then some (c.toNat - 'A'.toNat + 10)
    else none
  value?.filter (· < base)

/-- Reads a number below `limit` of at most `width` digits; `padded` admits leading zeros. -/
def number? (base limit : Nat) (width : Option Nat) (padded : Bool) (text : List Char) :
    Option (Nat × List Char) :=
  let digits := text.takeWhile fun c => (digit? base c).isSome
  let value := digits.foldl (fun total c => total * base + (digit? base c).getD 0) 0
  if digits.isEmpty || width.any (· < digits.length) || limit ≤ value then none
  else if !padded && digits.head? == some '0' && 1 < digits.length then none
  else some (value, text.drop digits.length)

/-- Reads one given character. -/
def char? (c : Char) : List Char → Option (List Char)
  | first :: rest => if first == c then some rest else none
  | [] => none

/-- Reads what `inner` reads, behind a separator unless it is the first of a row. -/
def separated? {α : Type} (separator : Char) (first : Bool)
    (inner : List Char → Option (α × List Char)) (text : List Char) : Option (α × List Char) :=
  if first then inner text else (char? separator text).bind inner

/-- Reads an octet. -/
def octet? : List Char → Option (Nat × List Char) :=
  number? 10 256 (some 3) false

/-- Reads four octets with points between them. -/
def v4? (text : List Char) : Option (List Nat × List Char) := do
  let (a, text) ← octet? text
  let (b, text) ← separated? '.' false octet? text
  let (c, text) ← separated? '.' false octet? text
  let (d, text) ← separated? '.' false octet? text
  return ([a, b, c, d], text)

/-- Reads up to `room` groups, the last two of them possibly as four octets. -/
-- The result says also whether it ends in octets.
def groups (first : Bool) : Nat → List Char → List Nat × Bool × List Char
  | 0, text => ([], false, text)
  | room + 1, text =>
    match (if 0 < room then separated? ':' first v4? text else none) with
    | some ([a, b, c, d], rest) => ([a * 256 + b, c * 256 + d], true, rest)
    | _ =>
      match separated? ':' first (number? 16 65536 (some 4) true) text with
      | none => ([], false, text)
      | some (group, rest) =>
        let (others, octets, tail) := groups false room rest
        (group :: others, octets, tail)

/-- Reads eight groups, of which one row of zeros may be left out. -/
def v6? (text : List Char) : Option (List Nat × List Char) := do
  let (head, octets, rest) := groups true 8 text
  if head.length = 8 then return (head, rest)
  if octets then none
  let rest ← char? ':' rest
  let rest ← char? ':' rest
  let (tail, _, rest) := groups true (7 - head.length) rest
  return (head ++ List.replicate (8 - head.length - tail.length) 0 ++ tail, rest)

/-- Reads a port behind its colon. -/
def port? (text : List Char) : Option (Nat × List Char) :=
  (char? ':' text).bind (number? 10 65536 none true)

/-- Reads an address of four octets with its port. -/
def socketV4? (text : List Char) : Option (SocketAddress × List Char) := do
  let (octets, rest) ← v4? text
  let (port, rest) ← port? rest
  return ({ address := .v4 octets, port }, rest)

/-- Reads a zone behind its percent sign; without one the zone is zero. -/
def readZone (text : List Char) : Nat × List Char :=
  ((char? '%' text).bind (number? 10 4294967296 none true)).getD (0, text)

/-- Reads an address of eight groups in brackets with its port. -/
def socketV6? (text : List Char) : Option (SocketAddress × List Char) := do
  let rest ← char? '[' text
  let (groups, rest) ← v6? rest
  let (zone, rest) := readZone rest
  let rest ← char? ']' rest
  let (port, rest) ← port? rest
  return ({ address := .v6 groups, zone, port }, rest)

/-- The address that the whole of a text spells. -/
def ofText? (text : String) : Option SocketAddress :=
  match (socketV4? text.toList).or (socketV6? text.toList) with
  | some (address, []) => some address
  | _ => none

/-! ## Writing -/

/-- The length of the row of zeros at the front. -/
def zeros (groups : List Nat) : Nat :=
  (groups.takeWhile (· == 0)).length

/-- The place and length of the first of the longest rows of zeros, seen from place `at_`. -/
def longestZeros (at_ : Nat) : List Nat → Nat × Nat
  | [] => (at_, 0)
  | group :: rest =>
    let here := zeros (group :: rest)
    let later := longestZeros (at_ + 1) rest
    if later.2 ≤ here then (at_, here) else later

/-- Groups in hexadecimal with colons between them. -/
def groupsText (groups : List Nat) : String :=
  ":".intercalate (groups.map fun group => String.ofList (Nat.toDigits 16 group))

/-- Octets in decimal with points between them. -/
def octetsText (octets : List Nat) : String :=
  ".".intercalate (octets.map toString)

/-- An address in its shortest form. -/
def addressText : IpAddress → String
  | .v4 octets => octetsText octets
  | .v6 [0, 0, 0, 0, 0, 0xffff, high, low] =>
    "::ffff:" ++ octetsText [high / 256, high % 256, low / 256, low % 256]
  | .v6 groups =>
    let (place, length) := longestZeros 0 groups
    if 1 < length then
      groupsText (groups.take place) ++ "::" ++ groupsText (groups.drop (place + length))
    else groupsText groups

/-- The address and the port in words. -/
def text (socket : SocketAddress) : String :=
  match socket.address with
  | .v4 _ => s!"{addressText socket.address}:{socket.port}"
  | .v6 _ =>
    let zone := if socket.zone = 0 then "" else s!"%{socket.zone}"
    s!"[{addressText socket.address}{zone}]:{socket.port}"

end SocketAddress

end PackGate
