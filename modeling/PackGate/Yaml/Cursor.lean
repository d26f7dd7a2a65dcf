/-! Positions in a YAML text, the faults found there, and movement through the text. -/

namespace PackGate.Yaml

/-- A position: characters and lines from the start, and characters from the line's start. -/
structure Mark where
  /-- Characters before the position. -/
  index : Nat := 0
  /-- Line breaks before the position. -/
  line : Nat := 0
  /-- Characters before the position on its line. -/
  column : Nat := 0
deriving DecidableEq, Repr

namespace Mark

/-- Whether the position is the first of the text, which messages leave out. -/
def isOrigin (mark : Mark) : Bool :=
  mark.line == 0 && mark.column == 0

/-- The position in words, counted from one. -/
def text (mark : Mark) : String :=
  s!"line {mark.line + 1} column {mark.column + 1}"

/-- The position as the end of a message; the first of the text is not mentioned. -/
def suffix (mark : Mark) : String :=
  if mark.isOrigin then "" else s!" at {mark.text}"

end Mark

/-- A violation of the syntax: what was found, where, and while reading what. -/
structure Fault where
  /-- What was found. -/
  problem : String
  /-- Where it was found. -/
  mark : Mark
  /-- What was being read and where it began. -/
  context : Option (String × Mark) := none
deriving DecidableEq, Repr

/-- The fault in words. -/
def Fault.message (fault : Fault) : String :=
  let found := fault.problem ++ fault.mark.suffix
  match fault.context with
  | none => found
  | some (context, start) =>
    let same := start.line == fault.mark.line && start.column == fault.mark.column
    found ++ ", " ++ context ++ (if same then "" else start.suffix)

/-- Whether a character ends a line. -/
def isBreak (c : Char) : Bool :=
  c == '\r' || c == '\n' || c == '\u0085' || c == '\u2028' || c == '\u2029'

/-- Whether a character separates words within a line. -/
def isBlank (c : Char) : Bool :=
  c == ' ' || c == '\t'

/-- Whether a character may stand in a name. -/
def isWord (c : Char) : Bool :=
  c.isAlphanum || c == '_' || c == '-'

/-- Whether a character may stand in a text at all. -/
def isPrintable (c : Char) : Bool :=
  let code := c.toNat
  code == 0x09 || code == 0x0A || code == 0x0D || (0x20 ≤ code && code ≤ 0x7E) || code == 0x85 ||
    (0xA0 ≤ code && code ≤ 0xD7FF) || (0xE000 ≤ code && code ≤ 0xFFFD) || 0x10000 ≤ code

/-- What is left of a text and where it begins. -/
structure Cursor where
  /-- The characters still to be read. -/
  rest : List Char
  /-- The position of the first of them. -/
  mark : Mark := {}
deriving Repr

namespace Cursor

/-- The next character. -/
def peek (cursor : Cursor) : Option Char :=
  cursor.rest.head?

/-- The character `offset` places further on. -/
def peekAt (cursor : Cursor) (offset : Nat) : Option Char :=
  cursor.rest[offset]?

/-- Whether the next character is `c`. -/
def startsWith (cursor : Cursor) (c : Char) : Bool :=
  cursor.peek == some c

/-- Whether the character `offset` places further on is a blank, a break or the end. -/
def isGapAt (cursor : Cursor) (offset : Nat) : Bool :=
  match cursor.peekAt offset with
  | none => true
  | some c => isBlank c || isBreak c

/-- Whether the next character is a break or the end. -/
def isLineEnd (cursor : Cursor) : Bool :=
  match cursor.peek with
  | none => true
  | some c => isBreak c

/-- Moves over `count` characters within a line. -/
def skip (cursor : Cursor) (count : Nat) : Cursor :=
  let mark := cursor.mark
  { rest := cursor.rest.drop count
    mark := { mark with index := mark.index + count, column := mark.column + count } }

/-- Moves over a line break and gives the character that stands for it. -/
-- A carriage return with its line feed is one break; only the two separators keep their own form.
def takeBreak (cursor : Cursor) : List Char × Cursor :=
  let next (width : Nat) : Cursor :=
    { rest := cursor.rest.drop width
      mark := { index := cursor.mark.index + width, line := cursor.mark.line + 1, column := 0 } }
  match cursor.rest with
  | '\r' :: '\n' :: _ => (['\n'], next 2)
  | c :: _ =>
    if c == '\u2028' || c == '\u2029' then ([c], next 1)
    else if isBreak c then (['\n'], next 1)
    else ([], cursor)
  | [] => ([], cursor)

/-- Takes characters of one line as long as they satisfy `keep`. -/
def takeWhile (cursor : Cursor) (keep : Char → Bool) : List Char × Cursor :=
  let taken := cursor.rest.takeWhile keep
  (taken, cursor.skip taken.length)

/-- Moves over characters of one line as long as they satisfy `keep`. -/
def skipWhile (cursor : Cursor) (keep : Char → Bool) : Cursor :=
  (cursor.takeWhile keep).2

/-- Moves to the end of the line. -/
def skipToLineEnd (cursor : Cursor) : Cursor :=
  cursor.skipWhile fun c => !isBreak c

/-- Whether a document indicator, three times `c`, stands at the start of the line here. -/
def atIndicator (cursor : Cursor) (c : Char) : Bool :=
  cursor.mark.column == 0 && cursor.rest.take 3 == [c, c, c] && cursor.isGapAt 3

/-- Whether either document indicator stands here. -/
def atDocumentBoundary (cursor : Cursor) : Bool :=
  cursor.atIndicator '-' || cursor.atIndicator '.'

/-- A fault at this position. -/
def fault (cursor : Cursor) (problem : String) (context : Option (String × Mark)) : Fault :=
  { problem, mark := cursor.mark, context }

end Cursor

end PackGate.Yaml
