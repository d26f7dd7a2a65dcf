/-! The command line of the server: one option that names the configuration file. -/

namespace PackGate.Cli

/-- Why a command line starts no server. -/
inductive Refusal where
  /-- The help text was asked for. -/
  | help
  /-- An option lacks its value, or has an empty one. -/
  | missingValue
  /-- An argument is not known. -/
  | unknownArgument
  /-- An option is given twice. -/
  | repeatedOption
  /-- An option that takes no value has one. -/
  | surplusValue
deriving DecidableEq, Repr

/-- The exit code that goes with a refusal. -/
def Refusal.exitCode : Refusal → Nat
  | .help => 0
  | _ => 2

/-- The configuration file when the command line names none. -/
def defaultConfigPath : String :=
  "/etc/packgate/config.yaml"

/-- What has been read of a command line. -/
structure Progress where
  /-- The accepted path. -/
  chosen : Option String := none
  /-- An option that waits for its value, or whose value waits to be accepted. -/
  pending : Option (Option String) := none
  /-- Whether `--` has ended the options. -/
  ended : Bool := false

namespace Progress

/-- Accepts `value` as the path. -/
def accept (progress : Progress) (value : String) : Except Refusal Progress :=
  if progress.chosen.isSome then .error .repeatedOption
  else if value = "" then .error .missingValue
  else .ok { progress with chosen := some value }

/-- Accepts the value of the option read last, which must have one by now. -/
def settle (progress : Progress) : Except Refusal Progress :=
  match progress.pending with
  | none => .ok progress
  | some none => .error .missingValue
  | some (some value) => accept { progress with pending := none } value

/-- Reads the option with the value written into the same argument, or with none yet. -/
def option (progress : Progress) (attached : Option String) : Except Refusal Progress := do
  let settled ← progress.settle
  match attached with
  | some value => settled.accept value
  | none => return { settled with pending := some none }

/-- Reads the request for help. -/
def help (progress : Progress) : Except Refusal Progress := do
  let _ ← progress.settle
  throw .help

/-- Reads an argument of the form `--name` or `--name=value`. -/
def long (progress : Progress) (name : List Char) (attached : Option (List Char)) :
    Except Refusal Progress :=
  if name = "config".toList then progress.option (attached.map String.ofList)
  else if name = "help".toList then
    if attached.isSome then .error .surplusValue else progress.help
  else .error .unknownArgument

/-- Reads the letters of an argument that starts with one dash. -/
-- Both known letters end the argument: one takes the rest as its value, the other asks for help.
def short (progress : Progress) : List Char → Except Refusal Progress
  | [] => .ok progress
  | 'c' :: [] => progress.option none
  | 'c' :: '=' :: value => progress.option (some (String.ofList value))
  | 'c' :: value => progress.option (some (String.ofList value))
  | 'h' :: _ => progress.help
  | _ => .error .unknownArgument

/-- Reads an argument that is no option: the value waited for, or nothing known. -/
def plain (progress : Progress) (value : String) : Except Refusal Progress :=
  match progress.pending with
  | some none => .ok { progress with pending := some (some value) }
  | _ => .error .unknownArgument

/-- Reads one argument. -/
def argument (progress : Progress) (text : String) : Except Refusal Progress :=
  if progress.ended then .error .unknownArgument
  else match text.toList with
    | ['-', '-'] => .ok { progress with ended := true }
    | '-' :: '-' :: letters =>
      let name := letters.takeWhile (· != '=')
      match letters.dropWhile (· != '=') with
      | [] => progress.long name none
      | _ :: value => progress.long name (some value)
    | '-' :: c :: letters => progress.short (c :: letters)
    | _ => progress.plain text

end Progress

/-- The configuration file that the arguments behind the program's name ask for. -/
def configPath (arguments : List String) : Except Refusal String := do
  let read ← arguments.foldlM Progress.argument {}
  let settled ← read.settle
  return settled.chosen.getD defaultConfigPath

end PackGate.Cli
