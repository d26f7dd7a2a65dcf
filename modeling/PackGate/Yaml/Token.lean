import PackGate.Yaml.ScalarText

/-! The tokens of a YAML text, with the structure that indentation and implicit keys stand for. -/

namespace PackGate.Yaml

/-- What a token stands for. -/
inductive TokenKind where
  /-- The start of the text. -/
  | streamStart
  /-- The end of the text. -/
  | streamEnd
  /-- The version of the language that a document is written in. -/
  | versionDirective (major minor : Nat)
  /-- A short form for tags. -/
  | tagDirective (handle stem : String)
  /-- The mark `---`. -/
  | documentStart
  /-- The mark `...`. -/
  | documentEnd
  /-- The start of an indented sequence. -/
  | blockSequenceStart
  /-- The start of an indented mapping. -/
  | blockMappingStart
  /-- The end of an indented collection. -/
  | blockEnd
  /-- An opening square bracket. -/
  | flowSequenceStart
  /-- A closing square bracket. -/
  | flowSequenceEnd
  /-- An opening curly bracket. -/
  | flowMappingStart
  /-- A closing curly bracket. -/
  | flowMappingEnd
  /-- The dash in front of an item. -/
  | blockEntry
  /-- The comma between items. -/
  | flowEntry
  /-- The start of a key, written or implied. -/
  | key
  /-- The colon in front of a value. -/
  | value
  /-- A reference to an anchor. -/
  | alias (name : String)
  /-- A name for the node that follows. -/
  | anchor (name : String)
  /-- A type for the node that follows. -/
  | tag (handle suffix : String)
  /-- A scalar. -/
  | scalar (text : String) (style : Style)
deriving DecidableEq, Repr

/-- A token and the stretch of text it was read from. -/
structure Token where
  /-- What the token stands for. -/
  kind : TokenKind
  /-- Where it begins. -/
  start : Mark
  /-- Where it ends. -/
  stop : Mark
deriving Repr

/-- A place where a key may turn out to begin, once a colon follows. -/
structure PossibleKey where
  /-- Whether the place still counts. -/
  possible : Bool := false
  /-- Whether a colon must follow. -/
  required : Bool := false
  /-- The number of the token that would begin the key. -/
  position : Nat := 0
  /-- Where the key would begin. -/
  mark : Mark := {}

/-- A text being cut into tokens. -/
structure Lexer where
  /-- What is left of the text. -/
  cursor : Cursor
  /-- The tokens found. -/
  tokens : Array Token := #[]
  /-- The number of open brackets. -/
  flowDepth : Nat := 0
  /-- The column of the innermost indented collection. -/
  indent : Int := -1
  /-- The columns of the collections around it. -/
  indents : List Int := []
  /-- Whether an implicit key may begin here. -/
  keyAllowed : Bool := true
  /-- The possible key of each open bracket, the innermost first, and of the text itself. -/
  keys : List PossibleKey := [{}]

namespace Lexer

/-- Appends a token. -/
def emit (lexer : Lexer) (kind : TokenKind) (start stop : Mark) : Lexer :=
  { lexer with tokens := lexer.tokens.push ⟨kind, start, stop⟩ }

/-- Puts a token in front of the one numbered `position`. -/
def emitAt (lexer : Lexer) (position : Nat) (kind : TokenKind) (mark : Mark) : Lexer :=
  { lexer with tokens := lexer.tokens.insertIdxIfInBounds position ⟨kind, mark, mark⟩ }

/-- Appends the token of an indicator of `width` characters and moves over it. -/
def emitIndicator (lexer : Lexer) (kind : TokenKind) (width : Nat) : Lexer :=
  let after := lexer.cursor.skip width
  { lexer.emit kind lexer.cursor.mark after.mark with cursor := after }

/-! ## Implicit keys -/

/-- The fault of a key without its colon. -/
def missingColon (lexer : Lexer) (key : PossibleKey) : Fault :=
  lexer.cursor.fault "could not find expected ':'" (some ("while scanning a simple key", key.mark))

/-- Gives up the possible keys that lie on an earlier line or too far back. -/
def dropStaleKeys (lexer : Lexer) : Except Fault Lexer := do
  let here := lexer.cursor.mark
  let keys ← lexer.keys.mapM fun key =>
    if key.possible && (key.mark.line < here.line || key.mark.index + 1024 < here.index) then
      if key.required then .error (lexer.missingColon key)
      else .ok { key with possible := false }
    else .ok key
  return { lexer with keys }

/-- Gives up the innermost possible key. -/
def dropKey (lexer : Lexer) : Except Fault Lexer :=
  match lexer.keys with
  | [] => .ok lexer
  | key :: outer =>
    if key.possible && key.required then .error (lexer.missingColon key)
    else .ok { lexer with keys := { key with possible := false } :: outer }

/-- Notes that a key may begin here, where one is allowed. -/
def noteKey (lexer : Lexer) : Except Fault Lexer := do
  if !lexer.keyAllowed then return lexer
  let here := lexer.cursor.mark
  let required := lexer.flowDepth == 0 && lexer.indent == (here.column : Int)
  let cleared ← lexer.dropKey
  let key : PossibleKey :=
    { possible := true, required, position := lexer.tokens.size, mark := here }
  return { cleared with keys := key :: cleared.keys.drop 1 }

/-! ## Indentation -/

/-- Opens an indented collection at `column`, its token put at `position` or at the end. -/
def openBlock (lexer : Lexer) (column : Nat) (position : Option Nat) (kind : TokenKind)
    (mark : Mark) : Lexer :=
  if lexer.flowDepth == 0 && lexer.indent < (column : Int) then
    let inside := { lexer with indents := lexer.indent :: lexer.indents, indent := column }
    match position with
    | some position => inside.emitAt position kind mark
    | none => inside.emit kind mark mark
  else lexer

/-- Closes every indented collection right of `column`. -/
def closeBlocksTo (column : Int) : List Int → Lexer → Lexer
  | [], lexer => lexer
  | outer :: rest, lexer =>
    if column < lexer.indent then
      let here := lexer.cursor.mark
      closeBlocksTo column rest
        { lexer.emit .blockEnd here here with indent := outer, indents := rest }
    else lexer

/-- Closes every indented collection right of `column`, unless brackets are open. -/
def closeBlocks (lexer : Lexer) (column : Int) : Lexer :=
  if lexer.flowDepth == 0 then closeBlocksTo column lexer.indents lexer else lexer

/-! ## Blanks and comments -/

/-- Moves over blanks, comments and line breaks; a new line may begin a key. -/
-- Tabs count as blanks only where no indentation is read.
def skipGap : Nat → Lexer → Lexer
  | 0, lexer => lexer
  | fuel + 1, lexer =>
    let marked :=
      if lexer.cursor.mark.column == 0 && lexer.cursor.startsWith '\uFEFF' then lexer.cursor.skip 1
      else lexer.cursor
    let tabs := 0 < lexer.flowDepth || !lexer.keyAllowed
    let spaced := marked.skipWhile fun c => c == ' ' || (tabs && c == '\t')
    let commented := if spaced.startsWith '#' then spaced.skipToLineEnd else spaced
    if commented.peek.any isBreak then
      skipGap fuel
        { lexer with
          cursor := commented.takeBreak.2
          keyAllowed := lexer.keyAllowed || lexer.flowDepth == 0 }
    else { lexer with cursor := commented }

/-! ## Directives, names and tags -/

/-- Reads the digits of a version number. -/
def readVersionNumber (context : Option (String × Mark)) (cursor : Cursor) :
    Except Fault (Nat × Cursor) :=
  let (digits, after) := cursor.takeWhile Char.isDigit
  if 9 < digits.length then
    .error ((cursor.skip 9).fault "found extremely long version number" context)
  else if digits.isEmpty then .error (cursor.fault "did not find expected version number" context)
  else .ok (digits.foldl (fun total c => total * 10 + (c.toNat - '0'.toNat)) 0, after)

/-- Reads a tag handle: `!`, `!!` or `!name!`; a directive needs one of the last two or `!`. -/
def readHandle (directive : Bool) (context : Option (String × Mark)) (cursor : Cursor) :
    Except Fault (List Char × Cursor) :=
  if !cursor.startsWith '!' then .error (cursor.fault "did not find expected '!'" context)
  else
    let (name, after) := (cursor.skip 1).takeWhile isWord
    if after.startsWith '!' then .ok ('!' :: name ++ ['!'], after.skip 1)
    else if directive && !name.isEmpty then
      .error (after.fault "did not find expected '!'" context)
    else .ok ('!' :: name, after)

/-- Reads one octet written as a percent sign and two hexadecimal digits. -/
def readOctet (context : Option (String × Mark)) (cursor : Cursor) : Except Fault (Nat × Cursor) :=
  match cursor.rest with
  | '%' :: high :: low :: _ =>
    match hexNumber? [high, low] with
    | some octet => .ok (octet, cursor.skip 3)
    | none => .error (cursor.fault "did not find URI escaped octet" context)
  | _ => .error (cursor.fault "did not find URI escaped octet" context)

/-- Reads the trailing octets of an escaped character. -/
def readTrailingOctets (context : Option (String × Mark)) :
    Nat → Nat → Cursor → Except Fault (Nat × Cursor)
  | 0, code, cursor => .ok (code, cursor)
  | count + 1, code, cursor => do
    let (octet, after) ← readOctet context cursor
    if octet / 64 ≠ 2 then
      throw (cursor.fault "found an incorrect trailing UTF-8 octet" context)
    readTrailingOctets context count (code * 64 + octet % 64) after

/-- Reads a character written as escaped octets. -/
def readEscapedCharacter (context : Option (String × Mark)) (cursor : Cursor) :
    Except Fault (Char × Cursor) := do
  let (octet, after) ← readOctet context cursor
  let (bits, tails) ←
    if octet < 0x80 then pure (octet, 0)
    else if octet / 32 = 6 then pure (octet % 32, 1)
    else if octet / 16 = 14 then pure (octet % 16, 2)
    else if octet / 8 = 30 then pure (octet % 8, 3)
    else throw (cursor.fault "found an incorrect leading UTF-8 octet" context)
  let (code, beyond) ← readTrailingOctets context tails bits after
  return (Char.ofNat code, beyond)

/-- Whether a character may stand in a tag; brackets and commas only inside angle brackets. -/
def isTagChar (verbatim : Bool) (c : Char) : Bool :=
  isWord c || ";/?:@&=+$.%!~*'()".toList.contains c || (verbatim && ",[]".toList.contains c)

/-- Reads the characters of a tag. -/
def readTagText (verbatim : Bool) (context : Option (String × Mark)) :
    Nat → List Char → Cursor → Except Fault (List Char × Cursor)
  | 0, text, cursor => .ok (text, cursor)
  | fuel + 1, text, cursor =>
    match cursor.peek with
    | none => .ok (text, cursor)
    | some c =>
      if c == '%' then do
        let (meant, after) ← readEscapedCharacter context cursor
        readTagText verbatim context fuel (text ++ [meant]) after
      else if isTagChar verbatim c then
        readTagText verbatim context fuel (text ++ [c]) (cursor.skip 1)
      else .ok (text, cursor)

/-- Reads the characters of a tag behind `head`, of which there must be some altogether. -/
def readTagUri (verbatim : Bool) (head : List Char) (context : Option (String × Mark))
    (cursor : Cursor) : Except Fault (List Char × Cursor) := do
  let (text, after) ← readTagText verbatim context (cursor.rest.length + 1) [] cursor
  if head.isEmpty && text.isEmpty then
    throw (after.fault "did not find expected tag URI" context)
  return (head.drop 1 ++ text, after)

/-- Reads a tag: its handle, its suffix and what follows. -/
def readTag (cursor : Cursor) : Except Fault (String × String × Cursor) := do
  let context := some ("while scanning a tag", cursor.mark)
  let uriContext := some ("while parsing a tag", cursor.mark)
  if cursor.peekAt 1 == some '<' then
    let (suffix, after) ← readTagUri true [] uriContext (cursor.skip 2)
    if !after.startsWith '>' then throw (after.fault "did not find the expected '>'" context)
    return ("", String.ofList suffix, after.skip 1)
  let (handle, after) ← readHandle false context cursor
  if 1 < handle.length && handle.getLast? == some '!' then
    let (suffix, beyond) ← readTagUri false [] uriContext after
    return (String.ofList handle, String.ofList suffix, beyond)
  -- What looked like a handle was the beginning of the suffix.
  let (suffix, beyond) ← readTagUri false handle uriContext after
  if suffix.isEmpty then return ("", "!", beyond)
  return ("!", String.ofList suffix, beyond)

/-- Reads a directive line and appends its token. -/
def readDirective (lexer : Lexer) : Except Fault Lexer := do
  let start := lexer.cursor.mark
  let context := some ("while scanning a directive", start)
  let (name, named) := (lexer.cursor.skip 1).takeWhile isWord
  if name.isEmpty then
    throw (named.fault "could not find expected directive name" context)
  if !named.isGapAt 0 then
    throw (named.fault "found unexpected non-alphabetical character" context)
  let (kind, after) ←
    if String.ofList name == "YAML" then do
      let context := some ("while scanning a %YAML directive", start)
      let (major, dotted) ← readVersionNumber context (named.skipWhile isBlank)
      if !dotted.startsWith '.' then
        throw (dotted.fault "did not find expected digit or '.' character" context)
      let (minor, after) ← readVersionNumber context (dotted.skip 1)
      pure (TokenKind.versionDirective major minor, after)
    else if String.ofList name == "TAG" then do
      let context := some ("while scanning a %TAG directive", start)
      let (handle, handled) ← readHandle true context (named.skipWhile isBlank)
      if !handled.peek.any isBlank then
        throw (handled.fault "did not find expected whitespace" context)
      let (stem, after) ←
        readTagUri true [] (some ("while parsing a %TAG directive", start))
          (handled.skipWhile isBlank)
      if !after.isGapAt 0 then
        throw (after.fault "did not find expected whitespace or line break" context)
      pure (TokenKind.tagDirective (String.ofList handle) (String.ofList stem), after)
    else throw (named.fault "found unknown directive name" context)
  let spaced := after.skipWhile isBlank
  let commented := if spaced.startsWith '#' then spaced.skipToLineEnd else spaced
  if !commented.isLineEnd then
    throw (commented.fault "did not find expected comment or line break" context)
  return { lexer.emit kind start after.mark with cursor := commented.takeBreak.2 }

/-- Reads an anchor or an alias and appends its token. -/
def readName (lexer : Lexer) (isAlias : Bool) : Except Fault Lexer := do
  let start := lexer.cursor.mark
  let (name, after) := (lexer.cursor.skip 1).takeWhile isWord
  let closed := after.isGapAt 0 || after.peek.any ("?:,]\x7d%@\x60".toList.contains ·)
  if name.isEmpty || !closed then
    let what := if isAlias then "while scanning an alias" else "while scanning an anchor"
    throw (after.fault "did not find expected alphabetic or numeric character" (some (what, start)))
  let text := String.ofList name
  let kind := if isAlias then TokenKind.alias text else TokenKind.anchor text
  return { lexer.emit kind start after.mark with cursor := after }

/-! ## One token -/

/-- Starts what may begin with a key and rules out a further key behind it. -/
def beginNode (lexer : Lexer) : Except Fault Lexer := do
  let noted ← lexer.noteKey
  return { noted with keyAllowed := false }

/-- Ends the indented collections and the possible key before a directive or a document mark. -/
def endContent (lexer : Lexer) : Except Fault Lexer := do
  let closed ← (lexer.closeBlocks (-1)).dropKey
  return { closed with keyAllowed := false }

/-- Reads an opening bracket. -/
def openFlow (lexer : Lexer) (kind : TokenKind) : Except Fault Lexer := do
  let noted ← lexer.noteKey
  let inside :=
    { noted with keys := {} :: noted.keys, flowDepth := noted.flowDepth + 1, keyAllowed := true }
  return inside.emitIndicator kind 1

/-- Reads a closing bracket. -/
def closeFlow (lexer : Lexer) (kind : TokenKind) : Except Fault Lexer := do
  let cleared ← lexer.dropKey
  let outside :=
    if 0 < cleared.flowDepth then
      { cleared with keys := cleared.keys.drop 1, flowDepth := cleared.flowDepth - 1 }
    else cleared
  return { outside with keyAllowed := false }.emitIndicator kind 1

/-- Opens an indented collection for an indicator found outside brackets, where a key may begin. -/
def openForIndicator (lexer : Lexer) (problem : String) (kind : TokenKind) : Except Fault Lexer :=
  let here := lexer.cursor.mark
  if 0 < lexer.flowDepth then .ok lexer
  else if !lexer.keyAllowed then .error (lexer.cursor.fault problem none)
  else .ok (lexer.openBlock here.column none kind here)

/-- Reads the dash in front of an item. -/
def readBlockEntry (lexer : Lexer) : Except Fault Lexer := do
  let opened ←
    lexer.openForIndicator "block sequence entries are not allowed in this context"
      .blockSequenceStart
  let cleared ← opened.dropKey
  return { cleared with keyAllowed := true }.emitIndicator .blockEntry 1

/-- Reads the question mark in front of a key. -/
def readKey (lexer : Lexer) : Except Fault Lexer := do
  let opened ←
    lexer.openForIndicator "mapping keys are not allowed in this context" .blockMappingStart
  let cleared ← opened.dropKey
  return { cleared with keyAllowed := lexer.flowDepth == 0 }.emitIndicator .key 1

/-- Reads the colon in front of a value; it turns a possible key before it into a key. -/
def readValue (lexer : Lexer) : Except Fault Lexer := do
  match lexer.keys with
  | key :: outer =>
    if key.possible then
      let keyed := lexer.emitAt key.position .key key.mark
      let opened := keyed.openBlock key.mark.column (some key.position) .blockMappingStart key.mark
      let keys := { key with possible := false } :: outer
      let used := { opened with keys, keyAllowed := false }
      return used.emitIndicator .value 1
  | [] => pure ()
  let opened ←
    lexer.openForIndicator "mapping values are not allowed in this context" .blockMappingStart
  return { opened with keyAllowed := lexer.flowDepth == 0 }.emitIndicator .value 1

/-- Reads a block scalar. -/
def readBlockScalar (lexer : Lexer) (folds : Bool) : Except Fault Lexer := do
  let cleared ← lexer.dropKey
  let start := lexer.cursor.mark
  let (text, stop, after) ← readBlock folds lexer.indent lexer.cursor
  let kind := TokenKind.scalar (String.ofList text) (if folds then .folded else .literal)
  return { cleared.emit kind start stop with cursor := after, keyAllowed := true }

/-- Reads a quoted scalar. -/
def readQuotedScalar (lexer : Lexer) (single : Bool) : Except Fault Lexer := do
  let begun ← lexer.beginNode
  let (text, after) ← readQuoted single lexer.cursor
  let kind := TokenKind.scalar (String.ofList text) (if single then .single else .double)
  return { begun.emit kind lexer.cursor.mark after.mark with cursor := after }

/-- Reads a plain scalar; a line break behind it allows a key again. -/
def readPlainScalar (lexer : Lexer) : Except Fault Lexer := do
  let begun ← lexer.beginNode
  let (plain, after) ← readPlain (0 < lexer.flowDepth) lexer.indent lexer.cursor
  let kind := TokenKind.scalar (String.ofList plain.text) .plain
  return { begun.emit kind lexer.cursor.mark plain.stop with
    cursor := after, keyAllowed := plain.broken }

/-- Whether a plain scalar can begin with the next characters. -/
def startsPlain (lexer : Lexer) (c : Char) : Bool :=
  let cursor := lexer.cursor
  let indicator := "-?:,[]\x7b\x7d#&*!|>'\"%@".toList.contains c || c == '\x60'
  (!indicator && !isBlank c && !isBreak c) ||
    (c == '-' && !(cursor.peekAt 1).any isBlank) ||
    (lexer.flowDepth == 0 && (c == '?' || c == ':') && !cursor.isGapAt 1)

/-- Reads the token that begins with `c`. -/
def readToken (lexer : Lexer) (c : Char) : Except Fault Lexer :=
  let cursor := lexer.cursor
  let inFlow := 0 < lexer.flowDepth
  if cursor.mark.column == 0 && c == '%' then do (← lexer.endContent).readDirective
  else if cursor.atIndicator '-' then do
    return (← lexer.endContent).emitIndicator .documentStart 3
  else if cursor.atIndicator '.' then do return (← lexer.endContent).emitIndicator .documentEnd 3
  else if c == '[' then lexer.openFlow .flowSequenceStart
  else if c == '\x7b' then lexer.openFlow .flowMappingStart
  else if c == ']' then lexer.closeFlow .flowSequenceEnd
  else if c == '\x7d' then lexer.closeFlow .flowMappingEnd
  else if c == ',' then do
    return { (← lexer.dropKey) with keyAllowed := true }.emitIndicator .flowEntry 1
  else if c == '-' && cursor.isGapAt 1 then lexer.readBlockEntry
  else if c == '?' && (inFlow || cursor.isGapAt 1) then lexer.readKey
  else if c == ':' && (inFlow || cursor.isGapAt 1) then lexer.readValue
  else if c == '*' then do (← lexer.beginNode).readName true
  else if c == '&' then do (← lexer.beginNode).readName false
  else if c == '!' then do
    let begun ← lexer.beginNode
    let (handle, suffix, after) ← readTag cursor
    if !after.isGapAt 0 && !(inFlow && after.startsWith ',') then
      throw (after.fault "did not find expected whitespace or line break"
        (some ("while scanning a tag", cursor.mark)))
    return { begun.emit (.tag handle suffix) cursor.mark after.mark with cursor := after }
  else if c == '|' && !inFlow then lexer.readBlockScalar false
  else if c == '>' && !inFlow then lexer.readBlockScalar true
  else if c == '\'' then lexer.readQuotedScalar true
  else if c == '"' then lexer.readQuotedScalar false
  else if lexer.startsPlain c then lexer.readPlainScalar
  else
    .error (cursor.fault "found character that cannot start any token"
      (some ("while scanning for the next token", cursor.mark)))

/-- Closes the text: every open collection outside brackets ends. -/
def finish (lexer : Lexer) : Except Fault Lexer := do
  let mark := lexer.cursor.mark
  let line := if mark.column == 0 then mark else { mark with line := mark.line + 1, column := 0 }
  let closed ← { lexer with cursor := { lexer.cursor with mark := line } }.endContent
  return closed.emit .streamEnd line line

/-- Reads the remaining tokens; a fault leaves the tokens found before it. -/
def run : Nat → Lexer → Lexer × Option Fault
  | 0, lexer => (lexer, some (lexer.cursor.fault "text too long" none))
  | fuel + 1, lexer =>
    let near := skipGap (lexer.cursor.rest.length + 1) lexer
    match near.dropStaleKeys with
    | .error fault => (near, some fault)
    | .ok current =>
      let settled := current.closeBlocks current.cursor.mark.column
      match settled.cursor.peek with
      | none =>
        match settled.finish with
        | .error fault => (settled, some fault)
        | .ok finished => (finished, none)
      | some c =>
        match settled.readToken c with
        | .error fault => (settled, some fault)
        | .ok next => run fuel next

end Lexer

/-- The octets of a text before its first character that may not stand in a text at all. -/
def unprintable? (letters : List Char) : Option Nat :=
  match letters.dropWhile isPrintable with
  | [] => none
  | _ => some ((letters.takeWhile isPrintable).foldl (fun total c => total + c.utf8Size) 0)

/-- The fault of a character that may not stand in a text; its place is told in octets. -/
def controlCharacter (offset : Nat) : Fault :=
  let place := if offset == 0 then "" else s!" at position {offset}"
  { problem := "control characters are not allowed" ++ place, mark := {} }

/-- The tokens of a text, and the fault that ended the reading early. -/
-- A byte order mark in front of the text does not belong to it.
def tokens (text : String) : Array Token × Option Fault :=
  let letters := match text.toList with
    | '\uFEFF' :: rest => rest
    | all => all
  match unprintable? text.toList with
  | some offset => (#[], some (controlCharacter offset))
  | none =>
    let fresh : Lexer := { cursor := { rest := letters } }
    let (lexer, fault) := (fresh.emit .streamStart {} {}).run (letters.length + 2)
    (lexer.tokens, fault)

end PackGate.Yaml
