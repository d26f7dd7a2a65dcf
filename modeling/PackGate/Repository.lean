import PackGate.Factory.Sequential
import PackGate.FileSystem

/-! Bare repositories: recognising them on disk and opening them by identifier. -/

namespace PackGate

/-- An opened bare repository. -/
structure Repository where
  /-- The identifier it was opened by. -/
  id : Identifier
  /-- Where it lies. -/
  path : String
deriving DecidableEq, Repr

/-- The release hook of a repository refuses to run twice. -/
instance : Releasable Repository where
  releaseFails _ releases := 0 < releases

namespace Repository

/-- Whether a path leads to a bare repository: a directory with a head, whatever else is in it. -/
def isBare (files : FileSystem) (path : String) : Bool :=
  files.isDirectory path && files.isFile (FilePath.join path "HEAD")

/-- What looking at a path leaves in the log. -/
def notices (files : FileSystem) (path : String) : List Notice :=
  let whole := ["objects", "refs"].all fun name => files.isDirectory (FilePath.join path name)
  if isBare files path && !whole then
    [.warn "HEAD exists but objects/ or refs/ directory is missing"]
  else []

/-- What a second release of a repository says. -/
def releasedTwice (repository : Repository) : Report :=
  .ofMessage s!"repository handle for {repository.id.text} released twice"

end Repository

/-- A repository in somebody's hands. -/
structure Handle where
  /-- The repository. -/
  repository : Repository
  /-- Whether it has been released. -/
  released : Bool := false
deriving DecidableEq, Repr

/-- Releases a repository, which can be done only once. -/
def Handle.release (handle : Handle) : Except Report Handle :=
  if handle.released then .error handle.repository.releasedTwice
  else .ok { handle with released := true }

/-- The directory that repositories are opened from. -/
structure Shelf where
  /-- The path of the directory. -/
  root : String
deriving DecidableEq, Repr

namespace Shelf

/-- Where the repository of an identifier lies. -/
def path (shelf : Shelf) (id : Identifier) : String :=
  FilePath.join shelf.root id.text

/-- Moves the shelf; a path that differs only in its spelling changes nothing. -/
def move (shelf : Shelf) (root : String) : Shelf :=
  if FilePath.same shelf.root root then shelf else { root }

/-- What moving the shelf leaves in the log. -/
def moveNotices (shelf : Shelf) (root : String) : List Notice :=
  if FilePath.same shelf.root root then [] else [.info "repository root changed"]

/-- The repository of an identifier as far as the shelf determines it. -/
def repository (shelf : Shelf) (id : Identifier) : Repository :=
  ⟨id, shelf.path id⟩

/-- Opens the repository of an identifier. -/
def openRepository (shelf : Shelf) (files : FileSystem) (id : Identifier) :
    Except BuildError Handle :=
  if Repository.isBare files (shelf.path id) then .ok { repository := shelf.repository id }
  else .error (.missing id.text)

/-- What opening the repository of an identifier comes to, as a builder's work. -/
def work (shelf : Shelf) (files : FileSystem) (id : Identifier) : Factory.Work Repository where
  resource := shelf.repository id
  outcome := match shelf.openRepository files id with
    | .ok _ => .ready
    | .error error => .failed error
  notices := Repository.notices files (shelf.path id)

end Shelf

end PackGate
