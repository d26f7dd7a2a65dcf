/-! Repository identifiers: one path segment that ends in the repository marker. -/

namespace PackGate

/-- A repository's name in the cache: a path segment with its marker, such as `widgets.git`. -/
structure Identifier where
  /-- The segment as it stood in the path. -/
  text : String
deriving DecidableEq, Hashable, Repr

namespace Identifier

/-- The suffix that marks the repository segment of a path. -/
def marker : List Char :=
  ['.', 'g', 'i', 't']

/-- Whether a path segment names a repository: it ends in the marker with a name in front. -/
def isRepository (segment : List Char) : Bool :=
  marker.isSuffixOf segment && marker.length < segment.length

/-- The repository's name without the marker. -/
def name (id : Identifier) : String :=
  let letters := id.text.toList
  if marker.isSuffixOf letters then String.ofList (letters.take (letters.length - marker.length))
  else id.text

/-- The segments of a path: the pieces between its separators, of which there is at least one. -/
def segments : List Char → List (List Char)
  | [] => [[]]
  | '/' :: rest => [] :: segments rest
  | c :: rest =>
    match segments rest with
    | [] => [[c]]
    | segment :: others => (c :: segment) :: others

/-- The identifier that a request path names: its first repository segment. -/
def ofPath? (path : String) : Option Identifier :=
  ((segments path.toList).find? isRepository).map fun segment => ⟨String.ofList segment⟩

/-- Identifiers from the bytewise least to the greatest. -/
def sorted (ids : List Identifier) : List Identifier :=
  ids.mergeSort fun a b => decide (a.text ≤ b.text)

end Identifier

end PackGate
