import PackGate.Http.Uri
import PackGate.Text.Percent

/-! HTTP requests. -/

namespace PackGate.Http

/-- A request: method, target, header fields with their names in lower case, and content. -/
structure Request where
  /-- The method. -/
  method : String
  /-- The target. -/
  uri : Uri
  /-- The header fields in order. -/
  headers : List (String × Bytes) := []
  /-- The content. -/
  body : Bytes := []
deriving DecidableEq, Repr

namespace Request

/-- Whether a character may stand in a method or in the name of a header field. -/
def isTokenChar (c : Char) : Bool :=
  c.isAlphanum || "!#$%&'*+-.^_\x60|~".contains c

/-- Whether a text is a method or the name of a header field. -/
def isToken (text : String) : Bool :=
  !text.isEmpty && text.all isTokenChar

/-- The greatest length of a header field's name. -/
def longestName : Nat :=
  65535

/-- Whether a byte may stand in the value of a header field. -/
def isValueByte (byte : UInt8) : Bool :=
  (0x20 ≤ byte && byte != 0x7f) || byte == 0x09

/-- The request of the given parts, if each of them is well formed. -/
def ofParts? (method uri : String) (headers : List (String × Bytes)) (body : Bytes) :
    Option Request := do
  let uri ← Uri.ofText? uri
  let named := headers.all fun (name, value) =>
    isToken name && name.length ≤ longestName && value.all isValueByte
  if isToken method && named then
    some { method, uri, headers := headers.map fun (name, value) => (name.toLower, value), body }
  else none

/-- The values of a header field in order. -/
def values (request : Request) (name : String) : List Bytes :=
  (request.headers.filter (·.1 == name)).map (·.2)

end Request

/-! ## Queries -/

namespace Query

/-- A piece of a form as text: plus signs are blanks, and what is no text is replaced. -/
def decode (piece : String) : String :=
  let bytes := (Text.Utf8.encode piece).map fun byte => if byte == 0x2b then 0x20 else byte
  Text.Utf8.decodeStringLossy (Text.Percent.decode bytes)

/-- The names and values in a query; empty pieces are passed over. -/
def pairs (query : String) : List (String × String) :=
  ((query.splitOn "&").filter (!·.isEmpty)).map fun piece =>
    match piece.splitOn "=" with
    | [] => ("", "")
    | name :: values => (decode name, decode ("=".intercalate values))

/-- The value of the only parameter that counts; none if it is given twice. -/
def service? (query : Option String) : Option (Option String) :=
  let named := (pairs (query.getD "")).filter (·.1 == "service")
  match named with
  | [] => some none
  | [(_, value)] => some (some value)
  | _ => none

end Query

end PackGate.Http
