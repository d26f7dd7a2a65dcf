import PackGate.Text.Utf8

/-! Git packet lines: four hexadecimal digits of length, counting themselves, and a payload. -/

namespace PackGate.PktLine

/-- The packet that ends a section. -/
def flush : Bytes :=
  [0x30, 0x30, 0x30, 0x30]

/-- The largest payload of one packet. -/
def maxPayload : Nat :=
  0xFFFF - 4

/-- A payload too large for one packet. -/
structure Oversized where
  /-- The payload's length in bytes. -/
  size : Nat
deriving DecidableEq, Repr

/-- The refusal in words. -/
def Oversized.message (fault : Oversized) : String :=
  s!"packet-line data too large ({fault.size} bytes)"

/-- The ASCII code of a lower-case hexadecimal digit. -/
def hexDigit (digit : Nat) : UInt8 :=
  if digit < 10 then UInt8.ofNat (0x30 + digit) else UInt8.ofNat (0x61 + (digit - 10))

/-- A length as four lower-case hexadecimal digits. -/
def lengthDigits (length : Nat) : Bytes :=
  [hexDigit (length / 4096 % 16), hexDigit (length / 256 % 16), hexDigit (length / 16 % 16),
    hexDigit (length % 16)]

/-- One packet with the given payload. -/
def encode (payload : Bytes) : Except Oversized Bytes :=
  if payload.length ≤ maxPayload then
    .ok (lengthDigits (payload.length + 4) ++ payload)
  else .error ⟨payload.length⟩

/-- The opening of a smart-HTTP advertisement: the service's name and a flush. -/
def announcement (service : Bytes) : Except Oversized Bytes := do
  let opening ← encode (Text.Utf8.encode "# service=" ++ service ++ [0x0A])
  return opening ++ flush

/-- A whole advertisement: the opening and the refs that git listed. -/
def advertisement (service : Bytes) (refs : Bytes) : Except Oversized Bytes := do
  let opening ← announcement service
  return opening ++ refs

end PackGate.PktLine
