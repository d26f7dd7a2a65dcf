/-! Text as UTF-8 bytes, read strictly or with every ill-formed piece replaced. -/

namespace PackGate

/-- A run of bytes as it travels over a pipe, a file or a socket. -/
abbrev Bytes := List UInt8

end PackGate

namespace PackGate.Text.Utf8

/-- The bytes of `text`. -/
def encode (text : String) : Bytes :=
  text.toUTF8.data.toList

/-- What stands at the head of a byte sequence. -/
inductive Head where
  /-- A whole character and the number of bytes it takes. -/
  | char (c : Char) (width : Nat)
  /-- A maximal ill-formed piece of the given number of bytes. -/
  | broken (width : Nat)

/-- What a first byte announces. -/
-- The payload bits of the first byte, how many bytes follow, and the range of the first of them.
structure Lead where
  /-- The bits that the first byte contributes. -/
  bits : Nat
  /-- The number of bytes that follow. -/
  tails : Nat
  /-- The least value of the next byte. -/
  least : UInt8
  /-- The greatest value of the next byte. -/
  greatest : UInt8

/-- The shape that a first byte announces; a byte that opens no character has none. -/
def lead? (byte : UInt8) : Option Lead :=
  let value := byte.toNat
  if byte < 0x80 then some ⟨value, 0, 0x80, 0xBF⟩
  else if byte < 0xC2 then none
  else if byte < 0xE0 then some ⟨value - 0xC0, 1, 0x80, 0xBF⟩
  -- Overlong forms and surrogates are excluded by the range of the second byte.
  else if byte == 0xE0 then some ⟨0, 2, 0xA0, 0xBF⟩
  else if byte == 0xED then some ⟨0xD, 2, 0x80, 0x9F⟩
  else if byte < 0xF0 then some ⟨value - 0xE0, 2, 0x80, 0xBF⟩
  else if byte == 0xF0 then some ⟨0, 3, 0x90, 0xBF⟩
  else if byte < 0xF4 then some ⟨value - 0xF0, 3, 0x80, 0xBF⟩
  else if byte == 0xF4 then some ⟨4, 3, 0x80, 0x8F⟩
  else none

/-- Reads `tails` continuation bytes after `width` bytes that carried `bits`. -/
def readTails (bits width : Nat) : Nat → UInt8 → UInt8 → Bytes → Head
  | 0, _, _, _ => .char (Char.ofNat bits) width
  | _ + 1, _, _, [] => .broken width
  | tails + 1, least, greatest, byte :: rest =>
    if least ≤ byte && byte ≤ greatest then
      readTails (bits * 64 + (byte.toNat - 0x80)) (width + 1) tails 0x80 0xBF rest
    else .broken width

/-- What stands at the head of `first :: rest`. -/
def head (first : UInt8) (rest : Bytes) : Head :=
  match lead? first with
  | none => .broken 1
  | some lead => readTails lead.bits 1 lead.tails lead.least lead.greatest rest

/-- The text that `bytes` hold, if they are well formed throughout. -/
def decode? : Bytes → Option (List Char)
  | [] => some []
  | first :: rest =>
    match head first rest with
    | .char c width => (decode? (rest.drop (width - 1))).map (c :: ·)
    | .broken _ => none
termination_by bytes => bytes.length
decreasing_by simp only [List.length_drop, List.length_cons]; omega

/-- The text that `bytes` hold, each maximal ill-formed piece read as U+FFFD. -/
def decodeLossy : Bytes → List Char
  | [] => []
  | first :: rest =>
    match head first rest with
    | .char c width => c :: decodeLossy (rest.drop (width - 1))
    | .broken width => '\uFFFD' :: decodeLossy (rest.drop (width - 1))
termination_by bytes => bytes.length
decreasing_by all_goals simp only [List.length_drop, List.length_cons]; omega

/-- The text that `bytes` hold as a string, if they are well formed throughout. -/
def decodeString? (bytes : Bytes) : Option String :=
  (decode? bytes).map String.ofList

/-- The text that `bytes` hold as a string, ill-formed pieces replaced. -/
def decodeStringLossy (bytes : Bytes) : String :=
  String.ofList (decodeLossy bytes)

end PackGate.Text.Utf8
