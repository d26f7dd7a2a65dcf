import PackGate.Text.Utf8

/-! Bytes written as percent signs with two hexadecimal digits. -/

namespace PackGate.Text.Percent

/-- The value of a hexadecimal digit. -/
def digit? (byte : UInt8) : Option UInt8 :=
  if 0x30 ≤ byte && byte ≤ 0x39 then some (byte - 0x30)
  else if 0x41 ≤ byte && byte ≤ 0x46 then some (byte - 0x37)
  else if 0x61 ≤ byte && byte ≤ 0x66 then some (byte - 0x57)
  else none

/-- The bytes meant; a percent sign without two digits behind it stands for itself. -/
def decode : Bytes → Bytes
  | 0x25 :: high :: low :: rest =>
    match digit? high, digit? low with
    | some high, some low => (high * 16 + low) :: decode rest
    | _, _ => 0x25 :: decode (high :: low :: rest)
  | byte :: rest => byte :: decode rest
  | [] => []

end PackGate.Text.Percent
