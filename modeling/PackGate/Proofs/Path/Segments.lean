import PackGate.Identifier

/-! The segments of a path: where each of them stands, and in which order they are met. -/

namespace PackGate.Identifier

/-! ## The list of segments -/

/-- Segments are what a separator splits a text into. -/
theorem segments_eq_splitOn (letters : List Char) : segments letters = letters.splitOn '/' := by
  unfold List.splitOn
  -- Both read from the left, open a new segment at a separator and extend the first one else.
  fun_induction segments letters with
  | case1 => rfl
  | case2 rest ih => simp [List.splitOnP_cons_eq_if_modifyHead, ih]
  | case3 c rest ordinary empty ih =>
    exact absurd (ih.symm.trans empty) (List.splitOnP_ne_nil _ rest)
  | case4 c rest ordinary segment others found ih =>
    have other : c ≠ '/' := fun same => ordinary same
    simp [List.splitOnP_cons_eq_if_modifyHead, other, ← ih, found]

/-- A separator ends one segment and opens the next. -/
theorem segments_append (front back : List Char) :
    segments (front ++ '/' :: back) = segments front ++ segments back := by
  simp only [segments_eq_splitOn, List.splitOn]
  exact List.splitOnP_append_cons front back (by simp)

/-- A text without a separator is its own segment. -/
theorem segments_plain {piece : List Char} (plain : '/' ∉ piece) : segments piece = [piece] := by
  rw [segments_eq_splitOn, List.splitOn]
  refine List.splitOnP_eq_singleton fun letter member => ?_
  simpa using fun same : letter = '/' => plain (same ▸ member)

/-- A text is its first segment, followed by a separator if there are others. -/
theorem segments_cases {letters piece : List Char} {others : List (List Char)}
    (split : segments letters = piece :: others) :
    '/' ∉ piece ∧ (letters = piece ∧ others = [] ∨
      ∃ rest, letters = piece ++ '/' :: rest ∧ segments rest = others) := by
  fun_induction segments letters generalizing piece with
  | case1 =>
    cases split
    exact ⟨List.not_mem_nil, .inl ⟨rfl, rfl⟩⟩
  | case2 rest =>
    cases split
    exact ⟨List.not_mem_nil, .inr ⟨rest, rfl, rfl⟩⟩
  | case3 c rest ordinary empty =>
    rw [segments_eq_splitOn] at empty
    exact absurd empty (List.splitOnP_ne_nil _ rest)
  | case4 c rest ordinary segment more found ih =>
    -- The letter in front is no separator, so it extends the first segment of the rest.
    cases split
    obtain ⟨plain, whole | ⟨tail, whole, further⟩⟩ := ih found
    · refine ⟨?_, .inl ⟨congrArg _ whole.1, whole.2⟩⟩
      simpa using ⟨fun same => ordinary same.symm, plain⟩
    · refine ⟨?_, .inr ⟨tail, congrArg _ whole, further⟩⟩
      simpa using ⟨fun same => ordinary same.symm, plain⟩

/-! ## One segment among the others -/

/-- What can stand before a segment: nothing, or what ends in a separator. -/
def Opens (front : List Char) : Prop :=
  front = [] ∨ front.getLast? = some '/'

/-- What can stand behind a segment: nothing, or what starts with a separator. -/
def Closes (back : List Char) : Prop :=
  back = [] ∨ back.head? = some '/'

/-- A text with one of its segments picked out. -/
structure Picks (letters front segment back : List Char) : Prop where
  /-- The segment and what stands around it make up the text. -/
  whole : letters = front ++ segment ++ back
  /-- There is no separator in the segment. -/
  plain : '/' ∉ segment
  /-- The segment starts where a segment can start. -/
  opens : Opens front
  /-- The segment ends where a segment can end. -/
  closes : Closes back

/-- Behind what can stand before a segment, an empty segment is left open. -/
theorem segments_of_opens {front : List Char} (opens : Opens front) :
    ∃ before, segments front = before ++ [[]] ∧
      ∀ rest, segments (front ++ rest) = before ++ segments rest := by
  rcases opens with rfl | last
  · exact ⟨[], rfl, fun rest => rfl⟩
  · obtain ⟨start, rfl⟩ := List.getLast?_eq_some_iff.mp last
    refine ⟨segments start, segments_append start [], fun rest => ?_⟩
    rw [List.append_assoc]
    exact segments_append start rest

/-- A piece before what can stand behind a segment is the first segment. -/
theorem segments_of_closes {piece back : List Char} (plain : '/' ∉ piece) (closes : Closes back) :
    ∃ after, segments (piece ++ back) = piece :: after := by
  cases back with
  | nil => exact ⟨[], by rw [List.append_nil, segments_plain plain]⟩
  | cons c rest =>
    obtain rfl : c = '/' := by simpa [Closes] using closes
    exact ⟨segments rest, by rw [segments_append, segments_plain plain]; rfl⟩

/-- A segment that is picked out is met after those of what stands before it. -/
theorem Picks.segments {letters front segment back : List Char}
    (picks : Picks letters front segment back) :
    ∃ before after, segments letters = before ++ segment :: after ∧
      segments front = before ++ [[]] := by
  obtain ⟨before, early, opened⟩ := segments_of_opens picks.opens
  obtain ⟨after, closed⟩ := segments_of_closes picks.plain picks.closes
  refine ⟨before, after, ?_, early⟩
  rw [picks.whole, List.append_assoc, opened, closed]

/-- Every segment that is met can be picked out where it stands. -/
theorem exists_picks {letters segment : List Char} {before after : List (List Char)}
    (met : segments letters = before ++ segment :: after) :
    ∃ front back, Picks letters front segment back ∧ segments front = before ++ [[]] := by
  -- The induction is on the segments met before, each of which moves into what stands in front.
  induction before generalizing letters with
  | nil =>
    obtain ⟨plain, ⟨rfl, _⟩ | ⟨rest, whole, _⟩⟩ := segments_cases met
    · exact ⟨[], [], ⟨by simp, plain, .inl rfl, .inl rfl⟩, rfl⟩
    · exact ⟨[], '/' :: rest, ⟨whole, plain, .inl rfl, .inr rfl⟩, rfl⟩
  | cons first others ih =>
    obtain ⟨plain, ⟨_, none⟩ | ⟨rest, rfl, further⟩⟩ := segments_cases met
    · simp at none
    -- The rest has the same segments but for the first, which now stands in front as well.
    · obtain ⟨front, back, picks, early⟩ := ih further
      refine ⟨first ++ '/' :: front, back, ⟨?_, picks.plain, .inr ?_, picks.closes⟩, ?_⟩
      · simp [picks.whole]
      · rcases picks.opens with rfl | last
        · simp
        · simp [List.getLast?_cons, last]
      -- The new front ends in the empty segment that the old one was left open with.
      · rw [segments_append, segments_plain plain, early]
        rfl

/-- The segments of a text are the pieces that can be picked out of it. -/
theorem mem_segments {letters segment : List Char} :
    segment ∈ segments letters ↔ ∃ front back, Picks letters front segment back := by
  constructor
  · intro member
    obtain ⟨before, after, met⟩ := List.append_of_mem member
    obtain ⟨front, back, picks, _⟩ := exists_picks met
    exact ⟨front, back, picks⟩
  · rintro ⟨front, back, picks⟩
    obtain ⟨before, after, met, _⟩ := picks.segments
    rw [met]
    simp

end PackGate.Identifier
