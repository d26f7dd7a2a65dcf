import PackGate.Identifier
import PackGate.Report
import PackGate.Text.Duration
import PackGate.Text.Quoted

/-! The outcomes that a caller of the factory, the resolver or a builder can meet. -/

namespace PackGate

/-- Why a lookup handed out no resource. -/
inductive FactoryError where
  /-- The request path names no repository. -/
  | invalidIdentifier (path : String)
  /-- Building the resource took longer than the budget. -/
  | timedOut (repository : String) (budget : Duration)
  /-- The builder failed; `missing` if it found nothing under that name. -/
  | failed (repository reason : String) (missing : Bool)
  /-- The factory has been shut down. -/
  | closed
deriving DecidableEq, Repr

namespace FactoryError

/-- The error in words. -/
def message : FactoryError → String
  | .invalidIdentifier path => s!"no repository identifier in path {Text.Quoted.encode path}"
  | .timedOut repository budget => s!"building {repository} exceeded the {budget.text} budget"
  | .failed repository reason _ => s!"failed to build {repository}: {reason}"
  | .closed => "resource factory is closed"

/-- Whether the same request may succeed later. -/
def isRetryable : FactoryError → Bool
  | .timedOut .. => true
  | _ => false

end FactoryError

/-- Why a builder produced no resource. -/
inductive BuildError where
  /-- Nothing exists under the given name. -/
  | missing (name : String)
  /-- Anything else, told as a chain. -/
  | other (report : Report)
deriving DecidableEq, Repr

namespace BuildError

/-- The error in words, without its causes. -/
def message : BuildError → String
  | .missing name => s!"repository {name} does not exist"
  | .other report => report.message

/-- The error in words, with its causes. -/
def fullMessage : BuildError → String
  | .missing name => s!"repository {name} does not exist"
  | .other report => report.oneLine

end BuildError

/-- The identifier that an optional request path names. -/
def resolve (path? : Option String) : Except FactoryError Identifier :=
  match path?.bind Identifier.ofPath? with
  | some id => .ok id
  | none => .error (.invalidIdentifier (path?.getD ""))

/-- The identifier that a text stands for: what it names as a request path. -/
def Identifier.parse (text : String) : Except FactoryError Identifier :=
  resolve (some text)

/-- The severity of a log record. -/
inductive Level where
  /-- An ordinary event. -/
  | info
  /-- Something that an operator should know. -/
  | warn
  /-- A request or an operation that failed. -/
  | error
deriving DecidableEq, Repr

/-- A log record: its severity and its message. -/
structure Notice where
  /-- The severity. -/
  level : Level
  /-- The message, without its fields. -/
  message : String
deriving DecidableEq, Repr

namespace Notice

/-- A record of an ordinary event. -/
def info (message : String) : Notice :=
  ⟨.info, message⟩

/-- A record that an operator should know of. -/
def warn (message : String) : Notice :=
  ⟨.warn, message⟩

/-- A record of a failure. -/
def error (message : String) : Notice :=
  ⟨.error, message⟩

/-- The messages of the warnings and errors among some records. -/
def alerts (notices : List Notice) : List String :=
  (notices.filter (·.level != .info)).map (·.message)

end Notice

end PackGate
