import PackGate.Proofs.Path.Grammar
import PackGate.ServicePath

/-! Where a request path is cut: behind the very segment that it resolves to. -/

namespace PackGate.ServicePath

open Identifier

/-! ## Offsets -/

/-- The length of two texts one after the other. -/
theorem byteLength_append (front back : List Char) :
    byteLength (front ++ back) = byteLength front + byteLength back := by
  induction front with
  | nil => simp [byteLength]
  | cons c rest ih =>
    rw [List.cons_append, byteLength, byteLength, ih]
    omega

/-- The number of bytes that segments take with a separator behind each. -/
def spanned : List (List Char) → Nat
  | [] => 0
  | segment :: rest => byteLength segment + 1 + spanned rest

/-- Segments one after the other take the bytes of both parts. -/
theorem spanned_append (before after : List (List Char)) :
    spanned (before ++ after) = spanned before + spanned after := by
  induction before with
  | nil => simp [spanned]
  | cons segment rest ih =>
    rw [List.cons_append, spanned, spanned, ih]
    omega

/-- All segments with a separator behind each take one byte more than the text. -/
theorem spanned_segments (letters : List Char) :
    spanned (segments letters) = byteLength letters + 1 := by
  have separator : '/'.utf8Size = 1 := rfl
  -- Along the recursion of the scan: a separator closes a segment, any other character makes the
  -- first one longer.
  fun_induction segments letters with
  | case1 => rfl
  | case2 rest ih =>
    simp only [spanned, ih, byteLength, separator]
    omega
  | case3 c rest ordinary empty ih =>
    rw [empty, spanned] at ih
    omega
  | case4 c rest ordinary segment others found ih =>
    rw [found, spanned] at ih
    simp only [spanned, byteLength]
    omega

/-- A text can be cut behind any of its beginnings. -/
theorem cutAt?_byteLength (front back : List Char) :
    cutAt? (byteLength front) (front ++ back) = some (front, back) := by
  induction front with
  | nil => cases back <;> rfl
  | cons c rest ih =>
    -- The first character takes at least one byte, so the offset is not used up before it.
    have taken := c.utf8Size_pos
    have length : byteLength (c :: rest) = c.utf8Size - 1 + byteLength rest + 1 := by
      rw [byteLength]
      omega
    rw [length, List.cons_append, cutAt?, if_pos (by omega)]
    have remaining : c.utf8Size - 1 + byteLength rest + 1 - c.utf8Size = byteLength rest := by omega
    rw [remaining, ih]
    rfl

/-- Where no segment is a repository's, no offset is found. -/
theorem repositoryEnd?_none {pieces : List (List Char)}
    (none : ∀ piece ∈ pieces, isRepository piece = false) (offset : Nat) :
    repositoryEnd? offset pieces = Option.none := by
  induction pieces generalizing offset with
  | nil => rfl
  | cons piece rest ih =>
    obtain ⟨first, others⟩ := List.forall_mem_cons.mp none
    rw [repositoryEnd?, first]
    exact ih others _

/-- The offset of the first repository segment counts what comes before it, and itself. -/
theorem repositoryEnd?_first {before : List (List Char)} {segment : List Char}
    (none : ∀ piece ∈ before, isRepository piece = false)
    (repository : isRepository segment = true) (after : List (List Char)) (offset : Nat) :
    repositoryEnd? offset (before ++ segment :: after) =
      some (offset + spanned before + byteLength segment) := by
  induction before generalizing offset with
  | nil =>
    rw [List.nil_append, repositoryEnd?, if_pos repository]
    rfl
  | cons piece rest ih =>
    obtain ⟨first, others⟩ := List.forall_mem_cons.mp none
    rw [List.cons_append, repositoryEnd?, if_neg (by simp [first]), ih others]
    simp only [spanned, Option.some.injEq]
    omega

/-! ## Cuts -/

/-- A marked path is cut behind its first marked name, and the slashes that follow are skipped. -/
theorem split_marked {path front name back : String} (marks : Marks path front name back)
    (unmarked : Unmarked front) :
    split path = .ok (some (front ++ name ++ ".git",
      String.ofList (back.toList.dropWhile (· == '/')))) := by
  obtain ⟨named, picks⟩ := marks_iff.mp marks
  obtain ⟨before, after, met, early⟩ := picks.segments
  have none : ∀ piece ∈ before, isRepository piece = false := fun piece member =>
    unmarked_iff.mp unmarked piece (by simp [early, member])
  -- The segments before the name are as long as what stands in front of it.
  have length : spanned before = byteLength front.toList := by
    have all := spanned_segments front.toList
    rw [early, spanned_append] at all
    simpa [spanned, byteLength] using all
  -- So the offset is the number of bytes up to the end of the marker.
  have found : repositoryEnd? 0 (segments path.toList) =
      some (byteLength (front.toList ++ (name.toList ++ marker))) := by
    rw [met, repositoryEnd?_first none (isRepository_iff.mpr ⟨_, named, rfl⟩), length,
      byteLength_append front.toList, Nat.zero_add]
  rw [split, found, picks.whole]
  simp only [cutAt?_byteLength]
  simp [marker, String.append_assoc]

/-- A path without a marked name is not cut. -/
theorem split_unmarked {path : String} (unmarked : Unmarked path) : split path = .ok none := by
  rw [split, repositoryEnd?_none (unmarked_iff.mp unmarked)]

/-- A path is cut if and only if it resolves, and no cut misses the boundary of a character. -/
theorem split_cases (path : String) :
    (∃ front rest id, split path = .ok (some (front, rest)) ∧ resolve (some path) = .ok id) ∨
      split path = .ok none ∧ resolve (some path) = .error (.invalidIdentifier path) := by
  cases resolved : resolve (some path) with
  | ok id =>
    obtain ⟨front, name, back, marks, unmarked, _⟩ := resolve_eq_ok.mp resolved
    exact .inl ⟨_, _, id, split_marked marks unmarked, rfl⟩
  | error error =>
    obtain ⟨same, fails⟩ := resolve_eq_error.mp resolved
    exact .inr ⟨split_unmarked (unmarked_of_unresolved fails), by rw [same]; rfl⟩

end PackGate.ServicePath
