import PackGate.Yaml.Token

/-! The nodes of a YAML text in the order in which they begin and end. -/

namespace PackGate.Yaml

/-- The type that a node is given. -/
abbrev Tag :=
  Option String

/-- What begins, ends or stands at a place of the text. -/
inductive EventKind where
  /-- A document begins. -/
  | documentStart
  /-- A document ends. -/
  | documentEnd
  /-- The text ends. -/
  | streamEnd
  /-- A node that was named before stands here again. -/
  | alias (name : String)
  /-- A scalar. -/
  | scalar (anchor : Option String) (tag : Tag) (text : String) (style : Style)
  /-- A sequence begins. -/
  | sequenceStart (anchor : Option String)
  /-- A sequence ends. -/
  | sequenceEnd
  /-- A mapping begins. -/
  | mappingStart (anchor : Option String)
  /-- A mapping ends. -/
  | mappingEnd
deriving DecidableEq, Repr

/-- An event and where it begins. -/
structure Event where
  /-- What happens. -/
  kind : EventKind
  /-- Where it happens. -/
  mark : Mark
deriving Repr

/-- What is expected next while the tokens are read. -/
inductive Goal where
  /-- The start of a document; the first needs no mark. -/
  | document (first : Bool)
  /-- The content of a document behind its mark. -/
  | documentContent
  /-- The end of a document. -/
  | documentEnd
  /-- A node; `block` admits indented collections, `flat` a sequence at its parent's column. -/
  | node (block flat : Bool)
  /-- An item of an indented sequence. -/
  | blockItem
  /-- An item of a sequence at its parent's column. -/
  | flatItem
  /-- A key of an indented mapping. -/
  | blockKey
  /-- A value of an indented mapping. -/
  | blockValue
  /-- An item of a bracketed sequence. -/
  | flowItem (first : Bool)
  /-- The key of a pair that stands as an item. -/
  | pairKey
  /-- The value of a pair that stands as an item. -/
  | pairValue
  /-- The end of a pair that stands as an item. -/
  | pairEnd
  /-- A key of a bracketed mapping. -/
  | flowKey (first : Bool)
  /-- A value of a bracketed mapping; `absent` if no colon may follow. -/
  | flowValue (absent : Bool)

/-- Tokens being read as events. -/
structure Reader where
  /-- The tokens still to be read. -/
  tokens : List Token
  /-- The events read. -/
  events : Array Event := #[]
  /-- What is expected, the next first. -/
  goals : List Goal := [.document true]
  /-- Where the open collections begin, the innermost first. -/
  opened : List Mark := []
  /-- The short forms of tags in force. -/
  shortForms : List (String × String) := []

namespace Reader

/-- Appends an event. -/
def emit (reader : Reader) (kind : EventKind) (mark : Mark) : Reader :=
  { reader with events := reader.events.push ⟨kind, mark⟩ }

/-- Appends an empty scalar. -/
def emitEmpty (reader : Reader) (mark : Mark) : Reader :=
  reader.emit (.scalar none none "" .plain) mark

/-- What the next token stands for. -/
def nextKind? (reader : Reader) : Option TokenKind :=
  reader.tokens.head?.map (·.kind)

/-- Moves over one token. -/
def advance (reader : Reader) : Reader :=
  { reader with tokens := reader.tokens.drop 1 }

/-- Adds an expectation in front of the others. -/
def expect (reader : Reader) (goal : Goal) : Reader :=
  { reader with goals := goal :: reader.goals }

/-- Notes where a collection begins and moves over the token that opens it. -/
def enter (reader : Reader) : Reader :=
  match reader.tokens with
  | [] => reader
  | token :: rest => { reader with tokens := rest, opened := token.start :: reader.opened }

/-- The fault of finding something other than what the innermost collection needs. -/
def unexpected (reader : Reader) (context problem : String) (mark : Mark) : Fault :=
  { problem, mark, context := reader.opened.head?.map (context, ·) }

/-- Ends the innermost collection. -/
def leave (reader : Reader) (kind : EventKind) (mark : Mark) : Reader :=
  { reader.emit kind mark with opened := reader.opened.drop 1 }

/-- The short forms that hold in every document. -/
def standardForms : List (String × String) :=
  [("!", "!"), ("!!", "tag:yaml.org,2002:")]

/-- Reads the directives in front of a document. -/
def readDirectives : List Token → Bool → List (String × String) →
    Except Fault (List Token × List (String × String))
  | [], _, forms => .ok ([], forms ++ standardForms)
  | token :: rest, versioned, forms =>
    match token.kind with
    | .versionDirective major minor =>
      if versioned then
        .error { problem := "found duplicate %YAML directive", mark := token.start }
      else if major != 1 || (minor != 1 && minor != 2) then
        .error { problem := "found incompatible YAML document", mark := token.start }
      else readDirectives rest true forms
    | .tagDirective handle stem =>
      if (forms.lookup handle).isSome then
        .error { problem := "found duplicate %TAG directive", mark := token.start }
      else readDirectives rest versioned (forms ++ [(handle, stem)])
    | _ => .ok (token :: rest, forms ++ standardForms)

/-- Moves over the marks that end documents. -/
def skipDocumentEnds : List Token → List Token
  | [] => []
  | token :: rest =>
    match token.kind with
    | .documentEnd => skipDocumentEnds rest
    | _ => token :: rest

/-- Reads the start of a document or the end of the text. -/
def readDocument (reader : Reader) (first : Bool) : Except Fault Reader := do
  let tokens := if first then reader.tokens else skipDocumentEnds reader.tokens
  match tokens with
  | [] => return { reader with tokens }
  | token :: rest =>
    match token.kind with
    | .streamEnd => return { reader with tokens := rest, goals := [] }.emit .streamEnd token.start
    | _ =>
      let (content, forms) ← readDirectives tokens false []
      let announced := { reader with tokens := content, shortForms := forms }
      match content with
      | { kind := .documentStart, .. } :: body =>
        let goals := .documentContent :: .documentEnd :: reader.goals
        return { announced with tokens := body, goals }.emit .documentStart token.start
      | found :: _ =>
        -- Only the first document may lack its mark, and only without directives.
        if first && content.length == tokens.length then
          return { announced with goals := .node true false :: .documentEnd :: reader.goals }.emit
            .documentStart token.start
        else
          throw { problem := "did not find expected <document start>", mark := found.start }
      | [] => return announced

/-- Reads the content of a document, which may be empty. -/
def readContent (reader : Reader) (token : Token) : Reader :=
  match token.kind with
  | .versionDirective .. | .tagDirective .. | .documentStart | .documentEnd | .streamEnd =>
    reader.emitEmpty token.start
  | _ => reader.expect (.node true false)

/-- Reads the end of a document. -/
def readDocumentEnd (reader : Reader) (token : Token) : Reader :=
  let ended := { reader with shortForms := [] }.emit .documentEnd token.start
  let next := match token.kind with
    | .documentEnd => ended.advance
    | _ => ended
  next.expect (.document false)

/-- What a node may be given in front of its content. -/
structure Properties where
  /-- Its name. -/
  anchor : Option String := none
  /-- Its type, as handle and suffix with the place of writing. -/
  tag : Option (String × String × Mark) := none
  /-- Where the properties begin. -/
  start : Option Mark := none

/-- Reads an anchor and a tag in either order, each at most once. -/
def readProperties (tokens : List Token) : Properties × List Token :=
  match tokens with
  | { kind := .anchor name, start, .. } :: { kind := .tag handle suffix, start := at_, .. } ::
      rest =>
    ({ anchor := some name, tag := some (handle, suffix, at_), start := some start }, rest)
  | { kind := .tag handle suffix, start, .. } :: { kind := .anchor name, .. } :: rest =>
    ({ anchor := some name, tag := some (handle, suffix, start), start := some start }, rest)
  | { kind := .anchor name, start, .. } :: rest =>
    ({ anchor := some name, start := some start }, rest)
  | { kind := .tag handle suffix, start, .. } :: rest =>
    ({ tag := some (handle, suffix, start), start := some start }, rest)
  | tokens => ({}, tokens)

/-- A tag written in full. -/
def fullTag (reader : Reader) (properties : Properties) (start : Mark) : Except Fault Tag :=
  match properties.tag with
  | none => .ok none
  | some (handle, suffix, mark) =>
    if handle = "" then .ok (some suffix)
    else match reader.shortForms.lookup handle with
      | some stem => .ok (some (stem ++ suffix))
      | none =>
        .error
          { problem := "found undefined tag handle", mark
            context := some ("while parsing a node", start) }

/-- Reads a node. -/
def readNode (reader : Reader) (block flat : Bool) : Except Fault Reader := do
  match reader.tokens with
  | { kind := .alias name, start, .. } :: rest =>
    return { reader with tokens := rest }.emit (.alias name) start
  | _ => pure ()
  let (properties, rest) := readProperties reader.tokens
  let content := { reader with tokens := rest }
  match rest with
  | [] => return content
  | token :: after =>
    let start := properties.start.getD token.start
    let tag ← reader.fullTag properties start
    let anchor := properties.anchor
    match token.kind with
    | .blockEntry =>
      if flat then return (content.emit (.sequenceStart anchor) start).expect .flatItem
    | .scalar text style =>
      -- A lone exclamation mark says that the node has no special type.
      let tag := if tag == some "!" then none else tag
      return { content with tokens := after }.emit (.scalar anchor tag text style) start
    | .flowSequenceStart =>
      return (content.emit (.sequenceStart anchor) start).enter.expect (.flowItem true)
    | .flowMappingStart =>
      return (content.emit (.mappingStart anchor) start).enter.expect (.flowKey true)
    | .blockSequenceStart =>
      if block then return (content.emit (.sequenceStart anchor) start).enter.expect .blockItem
    | .blockMappingStart =>
      if block then return (content.emit (.mappingStart anchor) start).enter.expect .blockKey
    | _ => pure ()
    if anchor.isSome || tag.isSome then
      return content.emit (.scalar anchor tag "" .plain) start
    let context := if block then "while parsing a block node" else "while parsing a flow node"
    throw
      { problem := "did not find expected node content", mark := token.start
        context := some (context, start) }

/-- Reads an item of an indented sequence. -/
def readBlockItem (reader : Reader) (token : Token) : Except Fault Reader :=
  match token.kind with
  | .blockEntry =>
    let inside := reader.advance.expect .blockItem
    match inside.nextKind? with
    | some .blockEntry | some .blockEnd => .ok (inside.emitEmpty token.stop)
    | _ => .ok (inside.expect (.node true false))
  | .blockEnd => .ok (reader.advance.leave .sequenceEnd token.start)
  | _ =>
    .error (reader.unexpected "while parsing a block collection"
      "did not find expected '-' indicator" token.start)

/-- Reads an item of a sequence at its parent's column. -/
def readFlatItem (reader : Reader) (token : Token) : Reader :=
  match token.kind with
  | .blockEntry =>
    let inside := reader.advance.expect .flatItem
    match inside.nextKind? with
    | some .blockEntry | some .key | some .value | some .blockEnd => inside.emitEmpty token.stop
    | _ => inside.expect (.node true false)
  | _ => reader.emit .sequenceEnd token.start

/-- Reads a key of an indented mapping. -/
def readBlockKey (reader : Reader) (token : Token) : Except Fault Reader :=
  match token.kind with
  | .key =>
    let inside := reader.advance.expect .blockValue
    match inside.nextKind? with
    | some .key | some .value | some .blockEnd => .ok (inside.emitEmpty token.stop)
    | _ => .ok (inside.expect (.node true true))
  | .blockEnd => .ok (reader.advance.leave .mappingEnd token.start)
  | _ =>
    .error (reader.unexpected "while parsing a block mapping" "did not find expected key"
      token.start)

/-- Reads a value of an indented mapping. -/
def readBlockValue (reader : Reader) (token : Token) : Reader :=
  match token.kind with
  | .value =>
    let inside := reader.advance.expect .blockKey
    match inside.nextKind? with
    | some .key | some .value | some .blockEnd => inside.emitEmpty token.stop
    | _ => inside.expect (.node true true)
  | _ => (reader.expect .blockKey).emitEmpty token.start

/-- Reads an item of a bracketed sequence behind its comma. -/
def readFlowContent (reader : Reader) : Except Fault Reader :=
  match reader.tokens with
  | [] => .ok (reader.expect (.node false false))
  | token :: _ =>
    match token.kind with
    | .flowSequenceEnd => .ok (reader.advance.leave .sequenceEnd token.start)
    | .key => .ok ((reader.advance.emit (.mappingStart none) token.start).expect .pairKey)
    | _ => .ok ((reader.expect (.flowItem false)).expect (.node false false))

/-- Reads an item of a bracketed sequence. -/
def readFlowItem (reader : Reader) (first : Bool) (token : Token) : Except Fault Reader :=
  match token.kind with
  | .flowSequenceEnd => .ok (reader.advance.leave .sequenceEnd token.start)
  | .flowEntry => if first then reader.readFlowContent else reader.advance.readFlowContent
  | _ =>
    if first then reader.readFlowContent
    else
      .error (reader.unexpected "while parsing a flow sequence" "did not find expected ',' or ']'"
        token.start)

/-- Reads the key of a pair that stands as an item. -/
def readPairKey (reader : Reader) (token : Token) : Reader :=
  let next := reader.expect .pairValue
  match token.kind with
  -- The token that shows the key to be empty is passed over together with it.
  | .value | .flowEntry | .flowSequenceEnd => next.advance.emitEmpty token.stop
  | _ => next.expect (.node false false)

/-- Reads the value of a pair that stands as an item. -/
def readPairValue (reader : Reader) (token : Token) : Reader :=
  let next := reader.expect .pairEnd
  match token.kind with
  | .value =>
    let inside := next.advance
    match inside.tokens with
    | { kind := .flowEntry, start, .. } :: _ => inside.emitEmpty start
    | { kind := .flowSequenceEnd, start, .. } :: _ => inside.emitEmpty start
    | _ => inside.expect (.node false false)
  | _ => next.emitEmpty token.start

/-- Reads a key of a bracketed mapping behind its comma. -/
def readFlowPair (reader : Reader) : Reader :=
  match reader.tokens with
  | [] => reader.expect (.node false false)
  | token :: _ =>
    match token.kind with
    | .flowMappingEnd => reader.advance.leave .mappingEnd token.start
    | .key =>
      let inside := reader.advance.expect (.flowValue false)
      match inside.tokens with
      | { kind := .value, start, .. } :: _ => inside.emitEmpty start
      | { kind := .flowEntry, start, .. } :: _ => inside.emitEmpty start
      | { kind := .flowMappingEnd, start, .. } :: _ => inside.emitEmpty start
      | _ => inside.expect (.node false false)
    | _ => (reader.expect (.flowValue true)).expect (.node false false)

/-- Reads a key of a bracketed mapping. -/
def readFlowKey (reader : Reader) (first : Bool) (token : Token) : Except Fault Reader :=
  match token.kind with
  | .flowMappingEnd => .ok (reader.advance.leave .mappingEnd token.start)
  | .flowEntry => .ok (if first then reader.readFlowPair else reader.advance.readFlowPair)
  | _ =>
    if first then .ok reader.readFlowPair
    else
      .error (reader.unexpected "while parsing a flow mapping" "did not find expected ',' or '\x7d'"
        token.start)

/-- Reads a value of a bracketed mapping. -/
def readFlowValue (reader : Reader) (absent : Bool) (token : Token) : Reader :=
  let next := reader.expect (.flowKey false)
  if absent then next.emitEmpty token.start
  else match token.kind with
    | .value =>
      let inside := next.advance
      match inside.tokens with
      | { kind := .flowEntry, start, .. } :: _ => inside.emitEmpty start
      | { kind := .flowMappingEnd, start, .. } :: _ => inside.emitEmpty start
      | _ => inside.expect (.node false false)
    | _ => next.emitEmpty token.start

/-- Meets one expectation. -/
def meet (reader : Reader) (goal : Goal) (token : Token) : Except Fault Reader :=
  match goal with
  | .document first => reader.readDocument first
  | .documentContent => .ok (reader.readContent token)
  | .documentEnd => .ok (reader.readDocumentEnd token)
  | .node block flat => reader.readNode block flat
  | .blockItem => reader.readBlockItem token
  | .flatItem => .ok (reader.readFlatItem token)
  | .blockKey => reader.readBlockKey token
  | .blockValue => .ok (reader.readBlockValue token)
  | .flowItem first => reader.readFlowItem first token
  | .pairKey => .ok (reader.readPairKey token)
  | .pairValue => .ok (reader.readPairValue token)
  | .pairEnd => .ok ((reader.expect (.flowItem false)).emit .mappingEnd token.start)
  | .flowKey first => reader.readFlowKey first token
  | .flowValue absent => .ok (reader.readFlowValue absent token)

/-- Meets the expectations until none is left, the tokens run out or a fault ends the reading. -/
def run : Nat → Reader → Array Event × Option Fault
  | 0, reader => (reader.events, none)
  | fuel + 1, reader =>
    match reader.goals, reader.tokens with
    | goal :: later, token :: _ =>
      match { reader with goals := later }.meet goal token with
      | .error fault => (reader.events, some fault)
      | .ok next => run fuel next
    | _, _ => (reader.events, none)

end Reader

/-- The events of a text, and the fault that ended the reading early. -/
-- Between two tokens at most three expectations are met without moving on.
def events (text : String) : Array Event × Option Fault :=
  let (found, broken) := tokens text
  let (events, fault) := Reader.run (4 * found.size + 16) { tokens := found.toList.drop 1 }
  (events, fault.or broken)

end PackGate.Yaml
