import PackGate.PktLine

/-! Packets as values: how each is written and how a reader finds them again. -/

namespace PackGate.PktLine

/-- A packet. -/
inductive Packet where
  /-- The end of a section. -/
  | flush
  /-- A payload. -/
  | data (payload : Bytes)
deriving DecidableEq, Repr

/-- The value of a hexadecimal digit of either case. -/
def digitValue? (byte : UInt8) : Option Nat :=
  let code := byte.toNat
  if 0x30 ≤ code && code ≤ 0x39 then some (code - 0x30)
  else if 0x61 ≤ code && code ≤ 0x66 then some (code - 0x61 + 10)
  else if 0x41 ≤ code && code ≤ 0x46 then some (code - 0x41 + 10)
  else none

/-- The number that four hexadecimal digits spell. -/
def lengthOf? (first second third fourth : UInt8) : Option Nat := do
  let high := (← digitValue? first) * 16 + (← digitValue? second)
  let low := (← digitValue? third) * 16 + (← digitValue? fourth)
  return high * 256 + low

namespace Packet

/-- The bytes of a packet. -/
def write : Packet → Except Oversized Bytes
  | .flush => .ok PktLine.flush
  | .data payload => encode payload

/-- The bytes of packets one after the other. -/
def writeAll : List Packet → Except Oversized Bytes
  | [] => .ok []
  | packet :: rest => do
    let written ← packet.write
    return written ++ (← writeAll rest)

/-- Reads the packet in front and leaves the bytes behind it. -/
-- A length below four that is not zero does not even cover its own digits.
def read? : Bytes → Option (Packet × Bytes)
  | first :: second :: third :: fourth :: rest => do
    let length ← lengthOf? first second third fourth
    if length = 0 then some (.flush, rest)
    else if length < 4 || rest.length < length - 4 then none
    else some (.data (rest.take (length - 4)), rest.drop (length - 4))
  | _ => none

/-- Reads the given number of packets and leaves the bytes behind them. -/
def readMany? : Nat → Bytes → Option (List Packet × Bytes)
  | 0, bytes => some ([], bytes)
  | count + 1, bytes => do
    let (packet, rest) ← read? bytes
    let (packets, left) ← readMany? count rest
    return (packet :: packets, left)

end Packet

end PackGate.PktLine
