import PackGate.Error
import PackGate.Text.Utf8

/-! Answers to HTTP requests. -/

namespace PackGate.Http

/-- The content of an answer. -/
inductive Body where
  /-- Bytes known in full before they are sent. -/
  | fixed (bytes : Bytes)
  /-- Bytes sent as they come. -/
  | streamed (bytes : Bytes)
deriving DecidableEq, Repr

/-- The bytes of the content. -/
def Body.bytes : Body → Bytes
  | .fixed bytes => bytes
  | .streamed bytes => bytes

/-- An answer: status, header fields in lower case, and content. -/
structure Response where
  /-- The status code. -/
  status : Nat
  /-- The header fields. -/
  headers : List (String × String)
  /-- The content. -/
  body : Body
deriving DecidableEq, Repr

namespace Response

/-- The type of plain text. -/
def plainText : String :=
  "text/plain; charset=utf-8"

/-- An answer without content. -/
def empty (status : Nat) : Response :=
  ⟨status, [], .fixed []⟩

/-- An answer of plain text. -/
def text (status : Nat) (content : String) : Response :=
  ⟨status, [("content-type", plainText)], .fixed (Text.Utf8.encode content)⟩

/-- An answer in JSON. -/
def json (status : Nat) (content : String) : Response :=
  ⟨status, [("content-type", "application/json")], .fixed (Text.Utf8.encode content)⟩

/-- The same answer with one more header field. -/
def withHeader (response : Response) (name value : String) : Response :=
  { response with headers := response.headers ++ [(name, value)] }

/-- The values of a header field. -/
def values (response : Response) (name : String) : List String :=
  (response.headers.filter (·.1 == name)).map (·.2)

/-- The same answer without its content. -/
def withoutBody (response : Response) : Response :=
  { response with body := .fixed [] }

end Response

/-- Why a request for a repository is not answered with its content. -/
inductive Failure where
  /-- The repository could not be named or opened. -/
  | factory (error : FactoryError)
  /-- Something else went wrong. -/
  | internal (report : Report)
deriving DecidableEq, Repr

namespace Failure

/-- The answer to a request that failed. -/
def response : Failure → Response
  | .factory error =>
    match error with
    | .invalidIdentifier _ => .text 404 error.message
    | .timedOut _ budget =>
      (Response.text 503 error.message).withHeader "retry-after"
        (toString (max budget.seconds 1))
    | .failed _ _ true => .text 404 error.message
    | .failed _ _ false => .text 500 error.message
    | .closed => .text 500 error.message
  | .internal report => .text 500 s!"Internal server error: {report.oneLine}"

/-- What the log says about a request that failed. -/
def notices : Failure → List Notice
  | .factory (.timedOut ..) => [.warn "repository open timed out"]
  | .factory (.failed _ _ false) => [.error "repository unavailable"]
  | .factory .closed => [.error "repository unavailable"]
  | .factory _ => []
  | .internal _ => [.error "internal server error"]

end Failure

end PackGate.Http
