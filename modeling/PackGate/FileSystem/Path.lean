/-! Paths as text: joining and comparing. -/

namespace PackGate.FilePath

/-- `name` inside the directory `root`, with a separator where one is needed. -/
def join (root name : String) : String :=
  match root.toList.getLast? with
  | none => name
  | some '/' => root ++ name
  | some _ => root ++ "/" ++ name

/-- The pieces of a path between its separators, empty ones left out. -/
def pieces (path : String) : List String :=
  ((path.toList.splitBy fun a b => (a == '/') == (b == '/')).filter (·.head? != some '/')).map
    String.ofList

/-- Whether a path starts at the root. -/
def isAbsolute (path : String) : Bool :=
  path.toList.head? == some '/'

/-- A path in its normal form: where it starts and its names. -/
-- A dot changes nothing, except that a relative path keeps one in front.
def normal (path : String) : Bool × List String :=
  match isAbsolute path, pieces path with
  | false, "." :: rest => (false, "." :: rest.filter (· != "."))
  | absolute, names => (absolute, names.filter (· != "."))

/-- Whether two paths have the same normal form. -/
def same (a b : String) : Bool :=
  normal a == normal b

end PackGate.FilePath
