import PackGate.Http.Request
import PackGate.Http.Response

/-! Which of the server's answers a request asks for. -/

namespace PackGate.Http

/-- What stands at a path. -/
inductive Place where
  /-- The server's health. -/
  | health
  /-- The server's counters. -/
  | metrics
  /-- The reload of the settings. -/
  | reload
  /-- Something in a repository; the path is given without its first slash and as it is written. -/
  | repository (written : String)
  /-- Nothing. -/
  | nowhere
deriving DecidableEq, Repr

namespace Place

/-- What stands at a path as it is written. -/
def ofPath (path : String) : Place :=
  if path = "/healthz" then .health
  else if path = "/metrics" then .metrics
  else if path = "/admin/refresh" then .reload
  else match path.toList with
    | '/' :: c :: rest => .repository (String.ofList (c :: rest))
    | _ => .nowhere

/-- The methods that a place answers to. -/
def methods : Place → List String
  | .health | .metrics => ["GET", "HEAD"]
  | .reload => ["POST"]
  | .repository _ => ["GET", "HEAD", "POST"]
  | .nowhere => []

/-- The path of something in a repository with its percent signs read; none if that is no text. -/
def decoded? (written : String) : Option String :=
  Text.Utf8.decodeString? (Text.Percent.decode (Text.Utf8.encode written))

end Place

namespace Response

/-- The answer where nothing stands. -/
def nothing : Response :=
  .empty 404

/-- The answer to a method that a place does not know. -/
def wrongMethod (methods : List String) : Response :=
  (Response.empty 405).withHeader "allow" (",".intercalate methods)

/-- The answer to a path whose percent signs spell no text. -/
def brokenPath : Response :=
  .text 400 "Invalid URL: Invalid UTF-8 in \x60path\x60"

/-- The answer to a query that names the service twice. -/
def brokenQuery : Response :=
  .text 400 "Failed to deserialize query string: duplicate field \x60service\x60"

/-- The answer to content that is too long. -/
def tooLong : Response :=
  .text 413 "Failed to buffer the request body: length limit exceeded"

/-- The same answer with the length of its content, if that is known from the start. -/
def withLength (response : Response) : Response :=
  match response.body with
  | .fixed bytes => response.withHeader "content-length" (toString bytes.length)
  | .streamed _ => response

end Response

end PackGate.Http
