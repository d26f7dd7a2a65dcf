/-! The targets of HTTP requests: reading their text, and the path and query in them. -/

namespace PackGate.Http

/-- What a request asks for. -/
structure Uri where
  /-- The path as it is written. -/
  path : String
  /-- The text behind the question mark, if there is one. -/
  query : Option String := none
deriving DecidableEq, Repr

namespace Uri

/-- The greatest length in bytes. -/
def longest : Nat :=
  65534

/-- The greatest length of a scheme. -/
def longestScheme : Nat :=
  64

/-! ## Path and query -/

/-- Whether a character may stand in a path. -/
def isPathChar (c : Char) : Bool :=
  c.isAlphanum || "!\"$%&'()*+,-./:;=@[\\]^_\x7b|\x7d~".contains c || 0x7f ≤ c.toNat

/-- Whether a character may stand in a query. -/
def isQueryChar (c : Char) : Bool :=
  (0x21 ≤ c.toNat && c != '"' && c != '#' && c != '<' && c != '>')

/-- Reads a path and the query behind it; a fragment is dropped unread. -/
def ofPathText? (text : List Char) : Option Uri :=
  let written := text.takeWhile (· != '#')
  let path := written.takeWhile (· != '?')
  let shown := if path.isEmpty then "/" else String.ofList path
  if !path.all isPathChar then none
  else match written.drop path.length with
    | [] => some { path := shown }
    | _ :: query =>
      if query.all isQueryChar then some { path := shown, query := some (String.ofList query) }
      else none

/-! ## Schemes and hosts -/

/-- What has been seen of a host. -/
structure Host where
  /-- The colons since the start, the last at sign or the closing bracket. -/
  colons : Nat := 0
  /-- Whether a bracket was opened. -/
  opened : Bool := false
  /-- Whether the bracket was closed. -/
  closed : Bool := false
  /-- Whether a percent sign was seen since the start, the last at sign or the closing bracket. -/
  percent : Bool := false
  /-- Whether the last character was an at sign. -/
  bare : Bool := false

/-- Whether a host may end here. -/
def Host.isWhole (host : Host) : Bool :=
  host.opened == host.closed && host.colons ≤ 1 && !host.bare && !host.percent

/-- The most colons in a row of a host's parts. -/
def mostColons : Nat :=
  8

/-- One more character of a host, if it may stand there. -/
def Host.read? (host : Host) (c : Char) : Option Host :=
  let host := { host with bare := false }
  if c = ':' then
    if mostColons ≤ host.colons then none else some { host with colons := host.colons + 1 }
  else if c = '[' then
    if host.percent || host.opened then none else some { host with opened := true }
  else if c = ']' then
    if !host.opened || host.closed then none
    else some { host with closed := true, colons := 0, percent := false }
  else if c = '@' then some { host with colons := 0, percent := false, bare := true }
  else if c = '%' then some { host with percent := true }
  else if c.isAlphanum || "!$&'()*+,-.;=_~".contains c then some host
  else none

/-- Whether a character ends a host. -/
def endsHost (c : Char) : Bool :=
  c = '/' || c = '?' || c = '#'

/-- Whether a text is a host, possibly with a user and a port. -/
def isHost (text : List Char) : Bool :=
  match text.foldlM Host.read? {} with
  | some host => host.isWhole
  | none => false

/-- Whether a character may stand in a scheme. -/
def isSchemeChar (c : Char) : Bool :=
  c.isAlphanum || c = '+' || c = '-' || c = '.'

/-- What stands behind the scheme of a text, and the scheme's length; none without a scheme. -/
def afterScheme? (text : List Char) : Option (Nat × List Char) :=
  let scheme := text.takeWhile isSchemeChar
  match text.drop scheme.length with
  | ':' :: '/' :: '/' :: rest => if text.length ≤ 3 then none else some (scheme.length, rest)
  | _ => none

/-- Reads a target that starts with a host, or with a scheme and a host. -/
def ofHostText? (text : List Char) : Option Uri :=
  match afterScheme? text with
  | none => if isHost text then some { path := "" } else none
  | some (length, rest) =>
    let host := rest.takeWhile (!endsHost ·)
    if longestScheme < length || host.isEmpty || !isHost host then none
    else ofPathText? (rest.drop host.length)

/-- Reads a target. -/
def ofText? (text : String) : Option Uri :=
  if longest < text.utf8ByteSize then none
  else match text.toList with
    | [] => none
    | ['*'] => some { path := "*" }
    | '/' :: rest => ofPathText? ('/' :: rest)
    | letters => ofHostText? letters

end Uri

end PackGate.Http
