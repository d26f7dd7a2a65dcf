/-! Failures told as a chain, from what was attempted down to the root cause. -/

namespace PackGate

/-- A failure in words: the outermost message and the causes below it. -/
structure Report where
  /-- What failed, as the caller sees it. -/
  message : String
  /-- The causes, from the nearest to the root. -/
  causes : List String
deriving DecidableEq, Repr

namespace Report

/-- A failure without a further cause. -/
def ofMessage (message : String) : Report :=
  ⟨message, []⟩

/-- The same failure seen from one step further out. -/
def wrap (report : Report) (message : String) : Report :=
  ⟨message, report.message :: report.causes⟩

/-- The innermost message. -/
def root (report : Report) : String :=
  report.causes.getLastD report.message

/-- The whole chain on one line. -/
def oneLine (report : Report) : String :=
  ": ".intercalate (report.message :: report.causes)

/-- The lines of a cause under its number, continuation lines set in as far as the first. -/
def indent (label cause : String) : String :=
  let margin := String.ofList (List.replicate label.length ' ')
  match cause.splitOn "\n" with
  | [] => label
  | first :: rest =>
    let continued := rest.map fun line => if line = "" then line else margin ++ line
    "\n".intercalate ((label ++ first) :: continued)

/-- A number set flush right in five columns, with a colon behind it. -/
def numbered (index : Nat) : String :=
  let digits := toString index
  String.ofList (List.replicate (5 - digits.length) ' ') ++ digits ++ ": "

/-- The report as a program ends with it: the message, then the causes one below the other. -/
def text (report : Report) : String :=
  let causes := match report.causes with
    | [] => ""
    | [single] => "\n\nCaused by:\n" ++ indent "    " single
    | many =>
      let lines := many.zipIdx.map fun (cause, index) => indent (numbered index) cause
      "\n\nCaused by:\n" ++ "\n".intercalate lines
  s!"Error: {report.message}{causes}\n"

end Report

end PackGate
