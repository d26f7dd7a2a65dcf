import PackGate.Identifier

/-! Request paths cut after their repository segment. -/

namespace PackGate.ServicePath

/-- A byte offset at which a text cannot be cut: past its end or inside a character. -/
structure OffsetFault where
  /-- The refused offset. -/
  offset : Nat
deriving DecidableEq, Repr

/-- The number of bytes that `letters` take as UTF-8. -/
def byteLength : List Char → Nat
  | [] => 0
  | c :: rest => c.utf8Size + byteLength rest

/-- `letters` cut at a byte offset; none if the offset lies outside or inside a character. -/
def cutAt? : Nat → List Char → Option (List Char × List Char)
  | 0, letters => some ([], letters)
  | _ + 1, [] => none
  | offset + 1, c :: rest =>
    if c.utf8Size ≤ offset + 1 then
      (cutAt? (offset + 1 - c.utf8Size) rest).map fun (front, back) => (c :: front, back)
    else none

/-- The byte offset at which the first repository segment ends, segments starting at `offset`. -/
def repositoryEnd? : Nat → List (List Char) → Option Nat
  | _, [] => none
  | offset, segment :: rest =>
    let stop := offset + byteLength segment
    if Identifier.isRepository segment then some stop
    -- The separator between two segments takes one byte.
    else repositoryEnd? (stop + 1) rest

/-- The part of `path` up to the end of its repository segment, and what follows its slashes. -/
-- The cut is made by byte offset, so an offset that missed a boundary would surface as a fault.
def split (path : String) : Except OffsetFault (Option (String × String)) :=
  match repositoryEnd? 0 (Identifier.segments path.toList) with
  | none => .ok none
  | some stop =>
    match cutAt? stop path.toList with
    | none => .error ⟨stop⟩
    | some (front, back) =>
      .ok (some (String.ofList front, String.ofList (back.dropWhile (· == '/'))))

end PackGate.ServicePath
