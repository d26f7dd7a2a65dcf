import PackGate.Text.Hidden

/-! Quoted text for messages: double quotes around, and every hidden character written visibly. -/

namespace PackGate.Text.Quoted

/-- The lower-case hexadecimal digits of `value`, without leading zeros. -/
def hex (value : Nat) : List Char :=
  Nat.toDigits 16 value

/-- The visible form of one character inside double quotes. -/
def escape (c : Char) : List Char :=
  if c == '\x00' then ['\\', '0']
  else if c == '\t' then ['\\', 't']
  else if c == '\r' then ['\\', 'r']
  else if c == '\n' then ['\\', 'n']
  else if c == '"' then ['\\', '"']
  else if c == '\\' then ['\\', '\\']
  else if Hidden.isHidden c then "\\u\x7b".toList ++ hex c.toNat ++ ['\x7d']
  else [c]

/-- `text` between double quotes, each character in its visible form. -/
def encode (text : String) : String :=
  String.ofList ('"' :: text.toList.flatMap escape ++ ['"'])

end PackGate.Text.Quoted
