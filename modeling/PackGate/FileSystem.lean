import PackGate.FileSystem.Path
import PackGate.Text.Utf8

/-! A file system held in memory: directories, files and symbolic links. -/

namespace PackGate

/-- Why the operating system refuses an operation. -/
inductive SystemError where
  /-- Nothing is there. -/
  | notFound
  /-- The operation needs rights that the program lacks. -/
  | permissionDenied
  /-- Something on the way is no directory. -/
  | notDirectory
  /-- A directory cannot be read as a file. -/
  | isDirectory
  /-- A name or a path is too long. -/
  | nameTooLong
  /-- Too many symbolic links were followed. -/
  | linkLoop
  /-- The address does not belong to this machine. -/
  | addressNotAvailable
  /-- There is no way to the address. -/
  | networkUnreachable
  /-- A path holds a zero byte. -/
  | zeroInPath
  /-- A file holds no well-formed text. -/
  | notText
deriving DecidableEq, Repr

/-- The error in words. -/
def SystemError.message : SystemError → String
  | .notFound => "No such file or directory (os error 2)"
  | .permissionDenied => "Permission denied (os error 13)"
  | .notDirectory => "Not a directory (os error 20)"
  | .isDirectory => "Is a directory (os error 21)"
  | .nameTooLong => "File name too long (os error 36)"
  | .linkLoop => "Too many levels of symbolic links (os error 40)"
  | .addressNotAvailable => "Cannot assign requested address (os error 99)"
  | .networkUnreachable => "Network is unreachable (os error 101)"
  | .zeroInPath => "file name contained an unexpected NUL byte"
  | .notText => "stream did not contain valid UTF-8"

/-- The names that lead from the root to an entry. -/
abbrev Location :=
  List String

/-- What stands at a location. -/
inductive Entry where
  /-- A directory. -/
  | directory
  /-- A file with its content. -/
  | file (content : Bytes)
  /-- A symbolic link with the path it stands for. -/
  | link (target : String)
deriving DecidableEq, Repr

/-- All entries, and the directory that relative paths start from. -/
structure FileSystem where
  /-- The entries, each under its location. -/
  entries : List (Location × Entry)
  /-- The working directory. -/
  home : Location
deriving Repr

namespace FileSystem

/-- A machine on which the working directory is empty. -/
def fresh : FileSystem where
  entries :=
    [([], .directory), (["tmp"], .directory), (["tmp", "work"], .directory)]
  home := ["tmp", "work"]

/-- The entry at a location. -/
def entry? (system : FileSystem) (location : Location) : Option Entry :=
  system.entries.lookup location

/-- Puts an entry at a location. -/
def put (system : FileSystem) (location : Location) (entry : Entry) : FileSystem :=
  let others := system.entries.filter fun known => known.1 != location
  { system with entries := others ++ [(location, entry)] }

/-- Removes the entry at a location with everything below it. -/
def prune (system : FileSystem) (location : Location) : FileSystem :=
  { system with entries := system.entries.filter fun known => !location.isPrefixOf known.1 }

/-! ## Following paths -/

/-- The names of a path in order; a separator at the end asks for a directory, as a dot does. -/
def steps (path : String) : List String :=
  let names := FilePath.pieces path
  if path.toList.getLast? == some '/' then names ++ ["."] else names

/-- The longest name and the longest path that are admitted, in bytes. -/
def longestName : Nat :=
  255

/-- The least length of a path, in bytes, that is too long. -/
def pathLimit : Nat :=
  4096

/-- How many symbolic links may lie on a path. -/
def linkLimit : Nat :=
  40

/-- Follows names from a location; with `last` a link at the very end is followed too. -/
def follow (system : FileSystem) (last : Bool) :
    Nat → Nat → Location → List String → Except SystemError Location
  | 0, _, _, _ => .error .linkLoop
  | _ + 1, _, here, [] => .ok here
  | fuel + 1, links, here, name :: rest => do
    if system.entry? here != some .directory then throw .notDirectory
    if name == "." then follow system last fuel links here rest
    else if name == ".." then follow system last fuel links here.dropLast rest
    else if longestName < name.utf8ByteSize then throw .nameTooLong
    else
      let inside := here ++ [name]
      match system.entry? inside with
      | none => throw .notFound
      | some (.link target) =>
        if rest.isEmpty && !last then return inside
        else if links = 0 then throw .linkLoop
        else
          let start := if FilePath.isAbsolute target then [] else here
          follow system last fuel (links - 1) start (steps target ++ rest)
      | some _ => follow system last fuel links inside rest

/-- Enough steps for every path: each link followed adds at most the steps of its target. -/
def followFuel (system : FileSystem) (names : List String) : Nat :=
  let targets := system.entries.map fun known => match known.2 with
    | .link target => (steps target).length
    | _ => 0
  names.length + (linkLimit + 1) * (targets.foldl (· + ·) 0 + 1) + 1

/-- The location that names lead to from where `path` starts. -/
def locateFrom (system : FileSystem) (path : String) (last : Bool) (names : List String) :
    Except SystemError Location :=
  let start := if FilePath.isAbsolute path then [] else system.home
  system.follow last (system.followFuel names) linkLimit start names

/-- The location that a path leads to, links followed. -/
def locate (system : FileSystem) (path : String) : Except SystemError Location :=
  if path.contains '\x00' then .error .zeroInPath
  else if path.isEmpty then .error .notFound
  else if pathLimit ≤ path.utf8ByteSize then .error .nameTooLong
  else system.locateFrom path true (steps path)

/-- What a path leads to. -/
def metadata (system : FileSystem) (path : String) : Except SystemError Entry := do
  let location ← system.locate path
  match system.entry? location with
  | some entry => return entry
  | none => throw .notFound

/-- Whether a path leads to a directory. -/
def isDirectory (system : FileSystem) (path : String) : Bool :=
  match system.metadata path with
  | .ok .directory => true
  | _ => false

/-- Whether a path leads to a file. -/
def isFile (system : FileSystem) (path : String) : Bool :=
  match system.metadata path with
  | .ok (.file _) => true
  | _ => false

/-- The content of the file that a path leads to. -/
def read (system : FileSystem) (path : String) : Except SystemError Bytes := do
  match ← system.metadata path with
  | .file content => return content
  | _ => throw .isDirectory

/-- The text of the file that a path leads to. -/
def readText (system : FileSystem) (path : String) : Except SystemError String := do
  match Text.Utf8.decodeString? (← system.read path) with
  | some text => return text
  | none => throw .notText

/-! ## Changes -/

/-- Makes every directory on the way along `names`, as far as nothing stands in the way. -/
def makeDirectories (system : FileSystem) (path : String) : List String → List String → FileSystem
  | _, [] => system
  | done, name :: rest =>
    let names := done ++ [name]
    match system.locateFrom path true names with
    | .ok _ => makeDirectories system path names rest
    | .error _ =>
      match system.locateFrom path true done with
      | .ok parent => makeDirectories (system.put (parent ++ [name]) .directory) path names rest
      | .error _ => system

/-- Makes a directory and those above it. -/
def createDirectory (system : FileSystem) (path : String) : FileSystem :=
  system.makeDirectories path [] (FilePath.pieces path)

/-- Puts an entry at the end of a path, the directories above made first; a file is replaced. -/
def create (system : FileSystem) (path : String) (entry : Entry) : FileSystem :=
  let names := FilePath.pieces path
  let ready := system.makeDirectories path [] names.dropLast
  match ready.locateFrom path true names with
  | .ok known => if ready.entry? known == some .directory then ready else ready.put known entry
  | .error _ =>
    match ready.locateFrom path true names.dropLast, names.getLast? with
    | .ok parent, some name => ready.put (parent ++ [name]) entry
    | _, _ => ready

/-- Removes what a path names, a link itself rather than what it leads to. -/
def remove (system : FileSystem) (path : String) : FileSystem :=
  match system.locateFrom path false (FilePath.pieces path) with
  | .ok location => if location.isEmpty then system else system.prune location
  | .error _ => system

/-- A request to change the file system. -/
inductive Edit where
  /-- Make a directory. -/
  | directory (path : String)
  /-- Make an empty bare repository. -/
  | bare (path : String)
  /-- Write a file. -/
  | file (path : String) (content : Bytes)
  /-- Make a symbolic link. -/
  | link (path target : String)
  /-- Remove everything under a path. -/
  | remove (path : String)
deriving Repr

/-- What the head of a new repository says. -/
def defaultHead : Bytes :=
  Text.Utf8.encode "ref: refs/heads/main\n"

/-- Makes one change. -/
def edit (system : FileSystem) : Edit → FileSystem
  | .directory path => system.createDirectory path
  | .bare path =>
    let objects := system.createDirectory (FilePath.join path "objects")
    let refs := objects.createDirectory (FilePath.join path "refs/heads")
    refs.create (FilePath.join path "HEAD") (.file defaultHead)
  | .file path content => system.create path (.file content)
  | .link path target =>
    let names := FilePath.pieces path
    let ready := system.makeDirectories path [] names.dropLast
    match ready.locateFrom path true names.dropLast, names.getLast? with
    | .ok parent, some name =>
      if (ready.entry? (parent ++ [name])).isSome then ready
      else ready.put (parent ++ [name]) (.link target)
    | _, _ => ready
  | .remove path => system.remove path

/-- Makes changes one after the other. -/
def edits (system : FileSystem) (requests : List Edit) : FileSystem :=
  requests.foldl edit system

end FileSystem

end PackGate
