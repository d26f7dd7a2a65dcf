import PackGate.Git

/-! A stand-in for the git program that answers from files in the repository's directory. -/

namespace PackGate.Simulation.GitStub

/-- The name that the files of a kind of process share. -/
def kind (launch : Git.Launch) : String :=
  if launch.arguments.contains "--advertise-refs" then "adv" else "rpc"

/-- What a process writes when no file says so: its arguments and what it reads. -/
-- A process that lists refs reads nothing.
def echo (launch : Git.Launch) : Bytes :=
  let shown := " ".intercalate (launch.arguments.map fun argument => s!"[{argument}]")
  let input := if kind launch == "adv" then [] else launch.input
  Text.Utf8.encode ("args: " ++ shown ++ "\nstdin: ") ++ input

/-- The exit code that a file spells; the shell's own code for bad arguments if it spells none. -/
def exitCode (content : Bytes) : Nat :=
  let digits := (Text.Utf8.decodeLossy content).filter (!Text.isBlank ·)
  if digits.isEmpty then 0
  else if digits.all Char.isDigit then (Nat.ofDigitChars 10 digits 0) % 256
  else 2

/-- The stand-in. -/
def program (files : FileSystem) : Git.Program := fun launch =>
  let directory := launch.arguments.getLastD ""
  let file (suffix : String) : Except SystemError Bytes :=
    files.read (FilePath.join directory (kind launch ++ suffix))
  let stdout := match file ".out" with
    | .ok content => content
    | .error _ => echo launch
  let stderr := match file ".err" with
    | .ok content => content
    | .error _ => []
  let status := match file ".kill", file ".exit" with
    | .ok _, _ => .killed
    | .error _, .ok content => .exited (exitCode content)
    | .error _, .error _ => .exited 0
  .ok { stdout, stderr, status }

/-- A machine without the program. -/
def absent : Git.Program := fun _ =>
  .error .notFound

end PackGate.Simulation.GitStub
