import PackGate.FileSystem
import PackGate.Report
import PackGate.Text.Blank

/-! The git program, to which reading a repository is left. -/

namespace PackGate.Git

/-- How a process ended. -/
inductive Status where
  /-- By itself, with an exit code. -/
  | exited (code : Nat)
  /-- By a signal that cannot be caught. -/
  | killed
deriving DecidableEq, Repr

/-- The status in words. -/
def Status.text : Status → String
  | .exited code => s!"exit status: {code}"
  | .killed => "signal: 9 (SIGKILL)"

/-- What a process left behind. -/
structure Output where
  /-- What it wrote to standard output. -/
  stdout : Bytes
  /-- What it wrote to standard error. -/
  stderr : Bytes
  /-- How it ended. -/
  status : Status
deriving DecidableEq, Repr

/-- A process to start: the arguments of the program and what it reads from standard input. -/
structure Launch where
  /-- The arguments. -/
  arguments : List String
  /-- The standard input. -/
  input : Bytes := []
deriving DecidableEq, Repr

/-- A program of that name on this machine: what a process comes to, or why none starts. -/
abbrev Program :=
  Launch → Except SystemError Output

/-- The process that lists the refs of a repository. -/
def advertising (path : String) : Launch where
  arguments := ["upload-pack", "--stateless-rpc", "--advertise-refs", path]

/-- The process that answers a request for objects of a repository. -/
def uploading (path : String) (request : Bytes) : Launch where
  arguments := ["upload-pack", "--stateless-rpc", path]
  input := request

/-- The refs of a repository; a process that fails is an error. -/
def advertise (program : Program) (path : String) : Except Report Bytes :=
  let name := "git upload-pack --advertise-refs"
  match program (advertising path) with
  | .error error => .error ((Report.ofMessage error.message).wrap s!"failed to spawn {name}")
  | .ok output =>
    if output.status = .exited 0 then .ok output.stdout
    else
      let said := String.ofList (Text.trim (Text.Utf8.decodeLossy output.stderr))
      .error (.ofMessage s!"{name} failed (status {output.status.text}): {said}")

/-- The answer to a request for objects, sent as it comes and however the process ends. -/
def upload (program : Program) (path : String) (request : Bytes) : Except Report Bytes :=
  match program (uploading path request) with
  | .error error =>
    .error ((Report.ofMessage error.message).wrap "failed to spawn git upload-pack")
  | .ok output => .ok output.stdout

end PackGate.Git
