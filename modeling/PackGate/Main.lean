import PackGate.Server

/-! The server on the command line, with its signals read as words from standard input. -/

namespace PackGate

/-- What stands at a path on this machine, as a change to an empty file system. -/
def survey (path : String) : IO (List FileSystem.Edit) := do
  try
    let content ← IO.FS.readBinFile path
    return [.file path content.toList]
  catch
    | .inappropriateType .. => return [.directory path]
    | _ => return []

/-- The settings file, and the directory that it names. -/
def surveySettings (path : String) : IO (List FileSystem.Edit) := do
  let settings ← survey path
  match Config.load (FileSystem.fresh.edits settings) path with
  | .error _ => return settings
  | .ok config => return settings ++ (← survey config.reposPath)

/-- The occurrences that standard input tells of; the settings are read anew for each of them. -/
partial def readOccurrences (input : IO.FS.Stream) (path : String) : IO (List Occurrence) := do
  let line ← input.getLine
  if line.isEmpty then return []
  let signal? : Option Signal := match line.trimAscii.toString with
    | "HUP" => some .hangup
    | "TERM" => some .terminate
    | "INT" => some .interrupt
    | _ => none
  match signal? with
  | none => readOccurrences input path
  | some signal =>
    let now := [.change [.remove path], .change (← surveySettings path), .signal signal]
    if signal = .hangup then return now ++ (← readOccurrences input path)
    else return now

/-- A log record as a line. -/
def logLine (notice : Notice) : String :=
  let level := match notice.level with
    | .info => "INFO"
    | .warn => "WARN"
    | .error => "ERROR"
  let fields := Text.JsonText.object [("message", Text.JsonText.string notice.message)]
  Text.JsonText.object [("level", Text.JsonText.string level), ("fields", fields)]

end PackGate

open PackGate in
/-- Runs the server without a network until a signal or the end of standard input ends it. -/
def main (arguments : List String) : IO UInt32 := do
  let path := (Cli.configPath arguments).toOption.getD ""
  let files := FileSystem.fresh.edits (← surveySettings path)
  let occurrences ← match Server.start files arguments with
    | .ok _ => readOccurrences (← IO.getStdin) path
    | .error _ => pure []
  let ending := Server.run files arguments occurrences
  for notice in ending.log do
    IO.println (logLine notice)
  IO.eprint ending.stderr
  return UInt32.ofNat ending.code
