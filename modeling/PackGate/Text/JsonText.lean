/-! JSON as text without blanks, written from finished parts. -/

namespace PackGate.Text.JsonText

/-- The four hexadecimal digits of a number below 65536. -/
def fourDigits (number : Nat) : List Char :=
  [number / 4096 % 16, number / 256 % 16, number / 16 % 16, number % 16].map Nat.digitChar

/-- A character as it stands in a string: quotes, backslashes and control characters are escaped. -/
def escape (c : Char) : List Char :=
  if c = '"' || c = '\\' then ['\\', c]
  else if c = '\n' then ['\\', 'n']
  else if c = '\r' then ['\\', 'r']
  else if c = '\t' then ['\\', 't']
  else if c = '\x08' then ['\\', 'b']
  else if c = '\x0c' then ['\\', 'f']
  else if c.toNat < 0x20 then '\\' :: 'u' :: fourDigits c.toNat
  else [c]

/-- A string. -/
def string (text : String) : String :=
  "\"" ++ String.ofList (text.toList.flatMap escape) ++ "\""

/-- A truth value. -/
def flag (value : Bool) : String :=
  if value then "true" else "false"

/-- An object of the given members, their values written already. -/
def object (members : List (String × String)) : String :=
  let written := members.map fun (name, value) => string name ++ ":" ++ value
  "\x7b" ++ ",".intercalate written ++ "\x7d"

end PackGate.Text.JsonText
