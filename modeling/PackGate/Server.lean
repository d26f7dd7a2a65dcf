import PackGate.App.Sequential
import PackGate.Cli

/-! The server as a program: how it starts, what signals make it do, and how it ends. -/

namespace PackGate

/-- What a program leaves behind. -/
structure Ending where
  /-- The exit code. -/
  code : Nat
  /-- The log. -/
  log : List Notice
  /-- What it wrote to standard error. -/
  stderr : String
deriving DecidableEq, Repr

/-- What makes the running server do something. -/
inductive Signal where
  /-- The settings are to be read anew. -/
  | hangup
  /-- The server is to end. -/
  | terminate
  /-- The operator ends the server. -/
  | interrupt
deriving DecidableEq, Repr

/-- What happens outside while the server runs. -/
inductive Occurrence where
  /-- Files change. -/
  | change (edits : List FileSystem.Edit)
  /-- A signal arrives. -/
  | signal (signal : Signal)
deriving Repr

namespace Server

/-! ## Listening -/

/-- Why the server cannot listen, if so. -/
-- Ports below 1024 are reserved, and only addresses of this machine can be listened on.
def bindFault? (socket : SocketAddress) : Option SystemError :=
  if 0 < socket.port && socket.port < 1024 then some .permissionDenied
  else if isLocal socket.address then none
  else some .addressNotAvailable
where
  /-- Whether an address belongs to every machine. -/
  isLocal : IpAddress → Bool
    | .v4 (127 :: _) => true
    | .v4 octets => octets.all (· == 0)
    | .v6 groups => groups.all (· == 0) || groups == [0, 0, 0, 0, 0, 0, 0, 1]

/-- Opens the socket that the settings ask for, or tells why that is impossible. -/
def listen (config : Config) : Except Report SocketAddress :=
  match SocketAddress.ofText? config.httpListen with
  | none =>
    .error ((Report.ofMessage "invalid socket address syntax").wrap "invalid http_listen address")
  | some socket =>
    match bindFault? socket with
    | none => .ok socket
    | some fault =>
      let attempt := s!"failed to bind HTTP listener on {socket.text}"
      .error ((Report.ofMessage fault.message).wrap attempt)

/-! ## The program -/

/-- What ends a program before it keeps a log. -/
def earlyEnding (report : Report) : Ending :=
  ⟨1, [], report.text⟩

/-- How a program ends that has no room for its cache: a fault that is not refused is a panic. -/
-- A panic also names its place in the program, which is left out.
def faultEnding (fault : Cache.CreateFault) : Ending :=
  if fault.isRefusal then earlyEnding (App.startFailure fault) else ⟨101, [], fault.message⟩

/-- How a program with a wrong command line ends. -/
def usageEnding (refusal : Cli.Refusal) : Ending :=
  ⟨refusal.exitCode, [], if refusal.exitCode = 2 then "usage" else ""⟩

/-- The first records of the log. -/
def greeting (files : FileSystem) (config : Config) : List Notice :=
  let missing := if files.isDirectory config.reposPath then []
    else [.warn "repository root does not exist yet; requests will 404 until it does"]
  .info "starting packgate" :: missing

/-- The server with its settings read and its log begun, or how the program has ended. -/
def start (files : FileSystem) (arguments : List String) : Except Ending App :=
  match Cli.configPath arguments with
  | .error refusal => .error (usageEnding refusal)
  | .ok path =>
    match Config.load files path with
    | .error error => .error (earlyEnding error.report)
    | .ok config =>
      let opening := greeting files config
      match App.create path config with
      | .error fault => .error { faultEnding fault with log := opening }
      | .ok app =>
        let factory := { app.factory with journal := opening ++ app.factory.journal }
        .ok { app with factory }

/-- Reads the settings anew because a signal said so; a failure is only logged. -/
def hangup (files : FileSystem) (app : App) : App :=
  match (app.note (.info "received SIGHUP")).reload files with
  | (.ok _, next) => next
  | (.error _, same) => same.note (.error "configuration reload failed")

/-- Ends the program: everything is released and the log closed. -/
def finish (app : App) (code : Nat) (stderr : String) : Ending :=
  let (_, closed) := app.shutdown
  ⟨code, (closed.note (.info "packgate shut down cleanly")).factory.journal, stderr⟩

/-- Runs the server until a signal ends it; without one it ends as if interrupted. -/
def serve (files : FileSystem) (app : App) : List Occurrence → Ending
  | [] => finish (app.note (.info "received SIGINT")) 0 ""
  | .change edits :: rest => serve (files.edits edits) app rest
  | .signal .hangup :: rest => serve files (hangup files app) rest
  | .signal .terminate :: _ => finish (app.note (.info "received SIGTERM")) 0 ""
  | .signal .interrupt :: _ => finish (app.note (.info "received SIGINT")) 0 ""

/-- Runs the program with the arguments behind its name. -/
def run (files : FileSystem) (arguments : List String) (occurrences : List Occurrence) : Ending :=
  match start files arguments with
  | .error ending => ending
  | .ok app =>
    match listen app.config with
    | .error report => finish app 1 report.text
    | .ok _ => serve files (app.note (.info "HTTP server listening")) occurrences

end Server

end PackGate
