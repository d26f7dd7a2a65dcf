import PackGate.Yaml.Cursor

/-! The text of scalars: plain, quoted and block, with their escapes and their line folding. -/

namespace PackGate.Yaml

/-- How a scalar is written. -/
inductive Style where
  /-- Without quotes. -/
  | plain
  /-- In single quotes. -/
  | single
  /-- In double quotes. -/
  | double
  /-- As an indented block whose line breaks are kept. -/
  | literal
  /-- As an indented block whose line breaks are folded. -/
  | folded
deriving DecidableEq, Repr

/-- The blanks and line breaks between two words of a scalar. -/
structure Gap where
  /-- The blanks, as long as no line break was met. -/
  blanks : List Char := []
  /-- The first line break, if it is to be folded. -/
  first : List Char := []
  /-- The further line breaks. -/
  further : List Char := []
  /-- Whether a line has ended. -/
  broken : Bool := false

namespace Gap

/-- What the gap contributes: one break becomes a space, more than one lose the first. -/
def folded (gap : Gap) : List Char :=
  if !gap.broken then gap.blanks
  else if gap.first == ['\n'] then if gap.further.isEmpty then [' '] else gap.further
  else gap.first ++ gap.further

/-- Reads blanks and breaks; a tab left of `indent` on a continuation line is refused. -/
def read (refuse : Cursor → Fault) (indent : Int) : Nat → Gap → Cursor → Except Fault (Gap × Cursor)
  | 0, gap, cursor => .ok (gap, cursor)
  | fuel + 1, gap, cursor =>
    match cursor.peek with
    | none => .ok (gap, cursor)
    | some c =>
      if isBlank c then
        if gap.broken && c == '\t' && (cursor.mark.column : Int) < indent then
          .error (refuse cursor)
        else
          let next := if gap.broken then gap else { gap with blanks := gap.blanks ++ [c] }
          read refuse indent fuel next (cursor.skip 1)
      else if isBreak c then
        let (ending, after) := cursor.takeBreak
        let next :=
          if gap.broken then { gap with further := gap.further ++ ending }
          else { gap with blanks := [], first := ending, broken := true }
        read refuse indent fuel next after
      else .ok (gap, cursor)

end Gap

/-! ## Quoted scalars -/

/-- The character that a one-letter escape stands for. -/
def simpleEscape? : Char → Option Char
  | '0' => some '\x00'
  | 'a' => some '\x07'
  | 'b' => some '\x08'
  | 't' => some '\t'
  | '\t' => some '\t'
  | 'n' => some '\n'
  | 'v' => some '\x0B'
  | 'f' => some '\x0C'
  | 'r' => some '\r'
  | 'e' => some '\x1B'
  | ' ' => some ' '
  | '"' => some '"'
  | '/' => some '/'
  | '\\' => some '\\'
  | 'N' => some '\u0085'
  | '_' => some '\u00A0'
  | 'L' => some '\u2028'
  | 'P' => some '\u2029'
  | _ => none

/-- The number of hexadecimal digits that follow an escape. -/
def escapeWidth? : Char → Option Nat
  | 'x' => some 2
  | 'u' => some 4
  | 'U' => some 8
  | _ => none

/-- The value of a hexadecimal digit. -/
def hexValue? (c : Char) : Option Nat :=
  if c.isDigit then some (c.toNat - '0'.toNat)
  else if 'a' ≤ c ∧ c ≤ 'f' then some (c.toNat - 'a'.toNat + 10)
  else if 'A' ≤ c ∧ c ≤ 'F' then some (c.toNat - 'A'.toNat + 10)
  else none

/-- The number that hexadecimal digits spell. -/
def hexNumber? (digits : List Char) : Option Nat :=
  digits.foldlM (fun total c => (hexValue? c).map (total * 16 + ·)) 0

/-- Reads the escape sequence at a backslash. -/
def readEscape (start : Mark) (cursor : Cursor) : Except Fault (Char × Cursor) :=
  let context := some ("while parsing a quoted scalar", start)
  match cursor.peekAt 1 with
  | none => .error (cursor.fault "found unknown escape character" context)
  | some letter =>
    match simpleEscape? letter, escapeWidth? letter with
    | some c, _ => .ok (c, cursor.skip 2)
    | none, none => .error (cursor.fault "found unknown escape character" context)
    | none, some width =>
      let after := cursor.skip 2
      let digits := after.rest.take width
      match (if digits.length = width then hexNumber? digits else none) with
      | none => .error (after.fault "did not find expected hexdecimal number" context)
      | some code =>
        if (0xD800 ≤ code && code ≤ 0xDFFF) || 0x10FFFF < code then
          .error (after.fault "found invalid Unicode character escape code" context)
        else .ok (Char.ofNat code, after.skip width)

/-- What ended a run of characters inside quotes. -/
inductive RunEnd where
  /-- The closing quote, a blank, a break or the end. -/
  | outside
  /-- A line break after a backslash, which leaves nothing behind. -/
  | escapedBreak

/-- Reads the characters of a quoted scalar up to a gap or the closing quote. -/
-- What has been read is kept with the last character in front.
def readRun (single : Bool) (start : Mark) :
    Nat → List Char → Cursor → Except Fault (List Char × RunEnd × Cursor)
  | 0, done, cursor => .ok (done.reverse, .outside, cursor)
  | fuel + 1, done, cursor =>
    match cursor.rest with
    | [] => .ok (done.reverse, .outside, cursor)
    | c :: rest =>
      if isBlank c || isBreak c then .ok (done.reverse, .outside, cursor)
      else if single && c == '\'' && rest.head? == some '\'' then
        readRun single start fuel ('\'' :: done) (cursor.skip 2)
      else if c == (if single then '\'' else '"') then .ok (done.reverse, .outside, cursor)
      else if !single && c == '\\' then
        if rest.head?.any isBreak then
          .ok (done.reverse, .escapedBreak, (cursor.skip 1).takeBreak.2)
        else
          match readEscape start cursor with
          | .error fault => .error fault
          | .ok (meant, after) => readRun single start fuel (meant :: done) after
      else readRun single start fuel (c :: done) (cursor.skip 1)

/-- Reads the inside of a quoted scalar and its closing quote. -/
def readQuotedTail (single : Bool) (start : Mark) :
    Nat → List Char → Cursor → Except Fault (List Char × Cursor)
  | 0, _, cursor => .error (cursor.fault "found unexpected end of stream" none)
  | fuel + 1, text, cursor => do
    let context := some ("while scanning a quoted scalar", start)
    if cursor.atDocumentBoundary then
      throw (cursor.fault "found unexpected document indicator" context)
    if cursor.rest.isEmpty then throw (cursor.fault "found unexpected end of stream" context)
    let (run, ending, after) ← readRun single start (fuel + 1) [] cursor
    if after.startsWith (if single then '\'' else '"') then return (text ++ run, after.skip 1)
    let opened : Gap := match ending with
      | .outside => {}
      | .escapedBreak => { broken := true }
    let refuse (at_ : Cursor) : Fault := at_.fault "found a tab character" context
    let (gap, next) ← Gap.read refuse (-1) (fuel + 1) opened after
    readQuotedTail single start fuel (text ++ run ++ gap.folded) next

/-- Reads a quoted scalar. -/
def readQuoted (single : Bool) (cursor : Cursor) : Except Fault (List Char × Cursor) :=
  readQuotedTail single cursor.mark (cursor.rest.length + 1) [] (cursor.skip 1)

/-! ## Plain scalars -/

/-- Whether a plain scalar ends in front of the next character. -/
def endsPlain (inFlow : Bool) (cursor : Cursor) (c : Char) : Bool :=
  (c == ':' && cursor.isGapAt 1) ||
    (inFlow && (c == ',' || c == '[' || c == ']' || c == '\x7b' || c == '\x7d'))

/-- Reads a word of a plain scalar up to a gap or its end. -/
-- What has been read is kept with the last character in front.
def readWord (inFlow : Bool) (start : Mark) :
    Nat → List Char → Cursor → Except Fault (List Char × Cursor)
  | 0, done, cursor => .ok (done.reverse, cursor)
  | fuel + 1, done, cursor =>
    match cursor.rest with
    | [] => .ok (done.reverse, cursor)
    | c :: rest =>
      if isBlank c || isBreak c then .ok (done.reverse, cursor)
      else if inFlow && c == ':' && rest.head?.any (fun d => ",?[]\x7b\x7d".toList.contains d) then
        .error (cursor.fault "found unexpected ':'" (some ("while scanning a plain scalar", start)))
      else if endsPlain inFlow cursor c then .ok (done.reverse, cursor)
      else readWord inFlow start fuel (c :: done) (cursor.skip 1)

/-- A plain scalar read so far, with where it ends and whether a line break follows it. -/
structure Plain where
  /-- The text. -/
  text : List Char
  /-- The position behind the text. -/
  stop : Mark
  /-- Whether the gap behind the text holds a line break. -/
  broken : Bool

/-- Reads a plain scalar from a gap on; `indent` is the least column of a continuation line. -/
def readPlainTail (inFlow : Bool) (indent : Int) (start : Mark) :
    Nat → Plain → Gap → Cursor → Except Fault (Plain × Cursor)
  | 0, plain, _, cursor => .ok (plain, cursor)
  | fuel + 1, plain, gap, cursor => do
    if cursor.atDocumentBoundary || cursor.startsWith '#' then return (plain, cursor)
    let (word, after) ← readWord inFlow start (fuel + 1) [] cursor
    let grown : Plain :=
      if word.isEmpty then plain
      else { text := plain.text ++ gap.folded ++ word, stop := after.mark, broken := false }
    let pending : Gap := if word.isEmpty then gap else {}
    -- A word that ends at anything but a gap ends the scalar.
    if !(after.peek.any fun c => isBlank c || isBreak c) then return (grown, after)
    let refuse (at_ : Cursor) : Fault :=
      at_.fault "found a tab character that violates indentation"
        (some ("while scanning a plain scalar", start))
    let (next, beyond) ← Gap.read refuse indent (fuel + 1) pending after
    let marked := { grown with broken := next.broken }
    if !inFlow && (beyond.mark.column : Int) < indent then return (marked, beyond)
    readPlainTail inFlow indent start fuel marked next beyond

/-- Reads a plain scalar inside a collection indented by `indent`. -/
def readPlain (inFlow : Bool) (indent : Int) (cursor : Cursor) : Except Fault (Plain × Cursor) :=
  readPlainTail inFlow (indent + 1) cursor.mark (cursor.rest.length + 1)
    { text := [], stop := cursor.mark, broken := false } {} cursor

/-! ## Block scalars -/

/-- What becomes of the line breaks at the end of a block scalar. -/
inductive Chomping where
  /-- All are dropped. -/
  | strip
  /-- The first is kept. -/
  | clip
  /-- All are kept. -/
  | keep
deriving DecidableEq, Repr

/-- The header of a block scalar: its chomping and its indentation, if given. -/
structure BlockHeader where
  /-- What becomes of the final line breaks. -/
  chomping : Chomping := .clip
  /-- The indentation beyond that of the parent. -/
  increment : Option Nat := none

/-- Reads an indentation digit, which may not be zero. -/
def readIncrement (context : Option (String × Mark)) (cursor : Cursor) :
    Except Fault (Option Nat × Cursor) :=
  match cursor.peek with
  | some c =>
    if c == '0' then
      .error (cursor.fault "found an indentation indicator equal to 0" context)
    else if c.isDigit then .ok (some (c.toNat - '0'.toNat), cursor.skip 1)
    else .ok (none, cursor)
  | none => .ok (none, cursor)

/-- Reads a chomping sign. -/
def readChomping (cursor : Cursor) : Option Chomping × Cursor :=
  match cursor.peek with
  | some '+' => (some .keep, cursor.skip 1)
  | some '-' => (some .strip, cursor.skip 1)
  | _ => (none, cursor)

/-- Reads the header behind the block indicator: sign and digit in either order. -/
def readBlockHeader (context : Option (String × Mark)) (cursor : Cursor) :
    Except Fault (BlockHeader × Cursor) := do
  match readChomping cursor with
  | (some chomping, signed) =>
    let (increment, after) ← readIncrement context signed
    return ({ chomping, increment }, after)
  | (none, _) =>
    let (increment, after) ← readIncrement context cursor
    if increment.isSome then
      let (chomping, beyond) := readChomping after
      return ({ chomping := chomping.getD .clip, increment }, beyond)
    else return ({}, after)

/-- The line breaks in front of a line of a block scalar. -/
structure BlockLead where
  /-- The breaks. -/
  breaks : List Char
  /-- The widest indentation met. -/
  widest : Nat
  /-- The position behind the last break. -/
  stop : Mark

/-- Reads indentation and empty lines; without a known `indent` all leading spaces are taken. -/
def readBlockLead (context : Option (String × Mark)) (indent : Option Int) :
    Nat → BlockLead → Cursor → Except Fault (BlockLead × Cursor)
  | 0, lead, cursor => .ok (lead, cursor)
  | fuel + 1, lead, cursor =>
    let spaces := (cursor.rest.takeWhile (· == ' ')).length
    let after := cursor.skip (match indent with
      | none => spaces
      | some indent => min spaces (indent - cursor.mark.column).toNat)
    let widest := max lead.widest after.mark.column
    let left := match indent with
      | none => true
      | some indent => decide ((after.mark.column : Int) < indent)
    if left && after.startsWith '\t' then
      .error (after.fault "found a tab character where an indentation space is expected" context)
    else if after.peek.any isBreak then
      let (ending, next) := after.takeBreak
      readBlockLead context indent fuel ⟨lead.breaks ++ ending, widest, next.mark⟩ next
    else .ok ({ lead with widest }, after)

/-- A block scalar read so far. -/
structure BlockBody where
  /-- The text. -/
  text : List Char
  /-- The break behind the last line. -/
  ending : List Char
  /-- The empty lines behind it. -/
  further : List Char
  /-- Whether the last line began with a blank. -/
  blankLed : Bool
  /-- The position behind the last line. -/
  stop : Mark

/-- Reads the lines of a block scalar that stand at `indent`. -/
def readBlockLines (folds : Bool) (context : Option (String × Mark)) (indent : Int) :
    Nat → BlockBody → Cursor → Except Fault (BlockBody × Cursor)
  | 0, body, cursor => .ok (body, cursor)
  | fuel + 1, body, cursor => do
    if (cursor.mark.column : Int) ≠ indent || cursor.rest.isEmpty then return (body, cursor)
    let blank := cursor.peek.any isBlank
    -- A break between two lines without leading blanks is folded.
    let joint :=
      if folds && body.ending == ['\n'] && !body.blankLed && !blank then
        if body.further.isEmpty then [' '] else body.further
      else body.ending ++ body.further
    let (line, after) := cursor.takeWhile fun c => !isBreak c
    let (ending, next) := after.takeBreak
    let (lead, beyond) ←
      readBlockLead context (some indent) (fuel + 1) ⟨[], 0, next.mark⟩ next
    readBlockLines folds context indent fuel
      { text := body.text ++ joint ++ line, ending, further := lead.breaks, blankLed := blank,
        stop := lead.stop } beyond

/-- Reads a block scalar inside a collection indented by `parent`. -/
def readBlock (folds : Bool) (parent : Int) (cursor : Cursor) :
    Except Fault (List Char × Mark × Cursor) := do
  let context := some ("while scanning a block scalar", cursor.mark)
  let (header, headed) ← readBlockHeader context (cursor.skip 1)
  let spaced := headed.skipWhile isBlank
  let commented := if spaced.startsWith '#' then spaced.skipToLineEnd else spaced
  if !commented.isLineEnd then
    throw (commented.fault "did not find expected comment or line break" context)
  let opened := commented.takeBreak.2
  let given : Option Int := header.increment.map fun increment => max parent 0 + increment
  let (lead, next) ←
    readBlockLead context given (opened.rest.length + 1) ⟨[], 0, opened.mark⟩ opened
  let indent : Int := given.getD (max (max (lead.widest : Int) (parent + 1)) 1)
  let (body, after) ← readBlockLines folds context indent (next.rest.length + 1)
    { text := [], ending := [], further := lead.breaks, blankLed := false, stop := lead.stop } next
  let tail := match header.chomping with
    | .strip => []
    | .clip => body.ending
    | .keep => body.ending ++ body.further
  return (body.text ++ tail, body.stop, after)

end PackGate.Yaml
