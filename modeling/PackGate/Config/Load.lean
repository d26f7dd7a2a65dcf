import PackGate.Config.Decode
import PackGate.FileSystem

/-! Settings read from a file. -/

namespace PackGate.Config

/-- Why a file yields no settings. -/
inductive LoadError where
  /-- The file cannot be read. -/
  | unreadable (path : String) (cause : SystemError)
  /-- The file's text yields no settings. -/
  | invalid (path : String) (cause : ConfigError)
deriving DecidableEq, Repr

/-- The error with its cause. -/
def LoadError.report : LoadError → Report
  | .unreadable path cause =>
    (Report.ofMessage cause.message).wrap s!"failed to read config file: {path}"
  | .invalid path cause =>
    (Report.ofMessage cause.message).wrap s!"failed to parse config file: {path}"

/-- The settings in the file that a path leads to. -/
def load (system : FileSystem) (path : String) : Except LoadError Config :=
  match system.readText path with
  | .error cause => .error (.unreadable path cause)
  | .ok text =>
    match parse text with
    | .error cause => .error (.invalid path cause)
    | .ok config => .ok config

end PackGate.Config
