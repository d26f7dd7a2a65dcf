import PackGate.Proofs.Cache.Transcript

/-! A larger cache holds whatever a smaller one holds after the same operations. -/

namespace PackGate.Cache

variable {κ α : Type}

/-! ## Lookups -/

/-- Whether an operation asks for a key. -/
def Operation.isLookup : Operation κ α → Bool
  | .get _ | .contains _ | .peek _ | .peekContains _ => true
  | _ => false

/-- Whether what is answered to a lookup says that the key is present. -/
def Answer.isHit : Answer κ α → Bool
  | .value found => found.isSome
  | .presence found => found
  | _ => false

/-! ## Lists within lists -/

section Sublists

variable {β : Type} {shorter longer : List β}

/-- What is left of a list within a longer one stays within it where more is cut off it. -/
theorem sublist_take_take (within : shorter.Sublist longer) {fewer more : Nat}
    (cut : longer.length - more ≤ shorter.length - fewer) :
    (shorter.take fewer).Sublist (longer.take more) := by
  -- Cutting the end off is dropping the front of the reversed list.
  rw [← List.reverse_sublist, List.reverse_take, List.reverse_take]
  exact (List.drop_sublist_drop_left _ cut).trans (within.reverse.drop _)

/-- Without its last element a list is within a longer one without its own. -/
theorem sublist_dropLast_dropLast (within : shorter.Sublist longer) :
    shorter.dropLast.Sublist longer.dropLast := by
  rw [← List.reverse_sublist, ← List.tail_reverse, ← List.tail_reverse]
  exact within.reverse.tail

end Sublists

/-! ## The plain list -/

namespace Recency

variable {slack : Nat} {small large : Recency κ α}

/-- A list that holds, in their order, what a smaller one holds, and not too much besides. -/
structure Nested (slack : Nat) (small large : Recency κ α) : Prop where
  /-- The entries of the smaller list are entries of the larger one in the same order. -/
  within : small.entries.Sublist large.entries
  /-- There are at most `slack` others. -/
  gap : large.entries.length ≤ small.entries.length + slack
  /-- There is room for `slack` others. -/
  room : large.capacity = small.capacity + slack

namespace Nested

/-- Removing the oldest entry of each keeps a list within another one. -/
theorem pop (nested : Nested slack small large) : Nested slack small.pop.2 large.pop.2 := by
  refine ⟨sublist_dropLast_dropLast nested.within, ?_, nested.room⟩
  -- The smaller list may be empty already, and then there are only others.
  have gap := nested.gap
  simp only [Recency.pop, List.length_dropLast]
  omega

variable [BEq κ] [LawfulBEq κ] {key : κ} {value : α}

/-- What the smaller list finds, the larger one finds. -/
theorem found (nested : Nested slack small large) (lesser : small.Proper) (greater : large.Proper)
    (hit : small.peek key = some value) : large.peek key = some value :=
  greater.peek_eq_some_iff.mpr (nested.within.subset (lesser.peek_eq_some_iff.mp hit))

/-- A key that the smaller list holds is held by the larger one. -/
theorem present (nested : Nested slack small large) (key : κ)
    (hit : small.peekContains key = true) : large.peekContains key = true := by
  -- Whether a key is present does not depend on its value, so its place in the list is enough.
  rw [peekContains_iff] at hit ⊢
  exact (nested.within.map _).subset hit

/-- Leaving a key out leaves no more others. -/
theorem gap_without (nested : Nested slack small large) (lesser : small.Proper)
    (greater : large.Proper) (key : κ) :
    (without large.entries key).length ≤ (without small.entries key).length + slack := by
  -- The larger list loses an entry wherever the smaller one does.
  have gap := nested.gap
  have fewer := lesser.length_without key
  have more := greater.length_without key
  by_cases hit : small.peekContains key = true
  · rw [if_pos hit] at fewer
    rw [if_pos (nested.present key hit)] at more
    omega
  · rw [if_neg hit] at fewer
    omega

/-- A lookup that promotes what it finds keeps a list within another one. -/
theorem get (nested : Nested slack small large) (lesser : small.Proper) (greater : large.Proper)
    (key : κ) : Nested slack (small.get key).2 (large.get key).2 := by
  have within : (without small.entries key).Sublist (without large.entries key) :=
    nested.within.filter _
  have gap := nested.gap_without lesser greater key
  cases hit : small.peek key with
  | some value =>
    have there := nested.found lesser greater hit
    -- Both lists move the same entry to the front.
    simp only [Recency.get, hit, there]
    exact ⟨within.cons_cons _, by simpa [Nat.add_right_comm] using gap, nested.room⟩
  | none =>
    cases there : large.peek key with
    | none => simpa only [Recency.get, hit, there] using nested
    | some value =>
      -- Only the larger list finds the key, and the other entries stay behind it in their order.
      simp only [Recency.get, hit, there]
      rw [without_absent (peek_eq_none_iff.mp hit)] at within
      have length := (greater.perm there).length_eq
      exact ⟨within.trans (List.sublist_cons_self ..), length ▸ nested.gap, nested.room⟩

/-- An insertion keeps a list within another one. -/
theorem insert (nested : Nested slack small large) (lesser : small.Proper)
    (greater : large.Proper) (key : κ) (value : α) :
    Nested slack (small.insert key value).2 (large.insert key value).2 := by
  have within : (without small.entries key).Sublist (without large.entries key) :=
    nested.within.filter _
  have gap := nested.gap_without lesser greater key
  have room := nested.room
  refine ⟨?_, ?_, ?_⟩
  · -- The smaller list is cut at least as deep as the larger one, so nothing of it sticks out.
    rw [lesser.insert_entries, greater.insert_entries]
    refine sublist_take_take (within.cons_cons _) ?_
    simp only [List.length_cons]
    omega
  · -- Each list is as long as its entries or its capacity allow, and both differ by the slack.
    rw [lesser.insert_entries, greater.insert_entries]
    simp only [List.length_take, List.length_cons]
    omega
  · have fewer := capacity_perform small (.insert key value)
    have more := capacity_perform large (.insert key value)
    exact more.trans (room.trans (congrArg (· + slack) fewer.symm))

/-- Removing a key keeps a list within another one. -/
theorem remove (nested : Nested slack small large) (lesser : small.Proper)
    (greater : large.Proper) (key : κ) :
    Nested slack (small.remove key).2 (large.remove key).2 := by
  rw [remove_eq, remove_eq]
  exact ⟨nested.within.filter _, nested.gap_without lesser greater key, nested.room⟩

/-- Whatever is asked of both keeps a list within another one. -/
theorem perform (nested : Nested slack small large) (lesser : small.Proper)
    (greater : large.Proper) (operation : Operation κ α) :
    Nested slack (small.perform operation).2 (large.perform operation).2 := by
  -- Asking for a key with a promotion moves entries just as looking it up does.
  cases operation with
  | insert key value => exact nested.insert lesser greater key value
  | get key => exact nested.get lesser greater key
  | contains key => exact nested.get lesser greater key
  | remove key => exact nested.remove lesser greater key
  | pop => exact nested.pop
  | drain => exact ⟨List.Sublist.refl _, Nat.zero_le _, nested.room⟩
  | _ => exact nested

/-- A lookup that hits in the smaller list is answered as in the larger one. -/
theorem answer_eq (nested : Nested slack small large) (lesser : small.Proper)
    (greater : large.Proper) {operation : Operation κ α} (lookup : operation.isLookup = true)
    (hit : (small.perform operation).1.isHit = true) :
    (large.perform operation).1 = (small.perform operation).1 := by
  have found {key : κ} (hit : (small.peek key).isSome = true) :
      large.peek key = small.peek key := by
    -- A hit comes with a value, which is the one that the larger list finds too.
    obtain ⟨value, hit⟩ := Option.isSome_iff_exists.mp hit
    rw [hit, nested.found lesser greater hit]
  cases operation with
  | get key =>
    simp only [Recency.perform, Prod.map_fst, get_answer] at hit ⊢
    rw [found hit]
  | contains key =>
    simp only [Recency.perform, Prod.map_fst, contains_answer, peekContains] at hit ⊢
    rw [found hit]
  | peek key => exact congrArg Answer.value (found hit)
  | peekContains key => exact congrArg (fun seen => Answer.presence seen.isSome) (found hit)
  | _ => cases lookup

end Nested

end Recency

/-! ## Caches -/

namespace Lru

variable [BEq κ] [Hashable κ]

/-- A cache that holds what a smaller one holds. -/
structure Covers (slack : Nat) (large small : Lru κ α) : Prop where
  /-- A key of the smaller cache is in the larger one with the same value. -/
  values : ∀ key value, small.peek key = some value → large.peek key = some value
  /-- The keys of the smaller cache follow each other in the larger one in the same order. -/
  order : small.keys.Sublist large.keys
  /-- The smaller cache holds no more entries. -/
  fewer : small.size ≤ large.size
  /-- The larger cache holds at most `slack` entries more. -/
  gap : large.size ≤ small.size + slack
  /-- A lookup that hits in the smaller cache has the same answer in the larger one. -/
  hits : ∀ operation : Operation κ α, operation.isLookup = true →
    (small.perform operation).1.isHit = true →
      (large.perform operation).1 = (small.perform operation).1

variable [LawfulBEq κ] {layout : Layout} {lesser greater : Nat} {small large : Lru κ α}

/-- The same history leads a smaller and a larger list to one within the other. -/
theorem nested_reached (fewer : lesser ≤ greater) (smaller : create layout lesser = .ok small)
    (larger : create layout greater = .ok large) (operations : List (Operation κ α)) :
    Recency.Nested (greater - lesser)
      (reached Recency.perform operations (Recency.empty lesser))
      (reached Recency.perform operations (Recency.empty greater)) := by
  -- The two histories run in step; each list stays one as a cache keeps it.
  induction operations using List.reverseRecOn with
  | nil => exact ⟨List.Sublist.refl _, Nat.zero_le _, (Nat.add_sub_of_le fewer).symm⟩
  | append_singleton operations operation ih =>
    rw [reached_concat, reached_concat]
    exact ih.perform (proper_reached smaller operations) (proper_reached larger operations)
      operation

/--
A larger cache holds what a smaller one holds, in the same order, after any history of both.

The larger one may hold as many others as it has more room.
-/
theorem larger_covers_smaller (fewer : lesser ≤ greater)
    (smaller : create layout lesser = .ok small)
    (larger : create layout greater = .ok large) (operations : List (Operation κ α)) :
    Covers (greater - lesser) (reached perform operations large)
      (reached perform operations small) := by
  -- What holds of the plain lists holds of the caches that stand for them.
  have nested := nested_reached fewer smaller larger operations
  have proper := proper_reached smaller operations
  have others := proper_reached larger operations
  obtain ⟨lessFormed, list⟩ := reached_matches smaller operations
  obtain ⟨moreFormed, longer⟩ := reached_matches larger operations
  generalize reached perform operations small = small at *
  generalize reached perform operations large = large at *
  rw [← list] at nested proper
  rw [← longer] at nested others
  constructor
  · intro key value hit
    rw [peek_eq lessFormed] at hit
    rw [peek_eq moreFormed]
    exact nested.found proper others hit
  · exact nested.within.map _
  · rw [size, size, ← lessFormed.length_toList, ← moreFormed.length_toList]
    exact nested.within.length_le
  · rw [size, size, ← lessFormed.length_toList, ← moreFormed.length_toList]
    exact nested.gap
  · intro operation lookup hit
    rw [(perform_matches lessFormed operation).answer] at hit ⊢
    rw [(perform_matches moreFormed operation).answer]
    exact nested.answer_eq proper others lookup hit

/-- A lookup that only the larger cache answers makes the two evict different keys. -/
theorem larger_covers_smaller_three :
    ∃ small large : Lru Nat Nat,
      create ⟨16, 32⟩ 2 = .ok small ∧ create ⟨16, 32⟩ 3 = .ok large ∧
        (reached perform [.insert 1 10, .insert 2 20, .insert 3 30, .get 1, .insert 4 40]
          small).keys = [4, 3] ∧
        (reached perform [.insert 1 10, .insert 2 20, .insert 3 30, .get 1, .insert 4 40]
          large).keys = [4, 1, 3] ∧
        Covers 1
          (reached perform [.insert 1 10, .insert 2 20, .insert 3 30, .get 1, .insert 4 40] large)
          (reached perform [.insert 1 10, .insert 2 20, .insert 3 30, .get 1, .insert 4 40]
            small) := by
  obtain ⟨small, smaller⟩ : ∃ cache : Lru Nat Nat, create ⟨16, 32⟩ 2 = .ok cache := ⟨_, rfl⟩
  obtain ⟨large, larger⟩ : ∃ cache : Lru Nat Nat, create ⟨16, 32⟩ 3 = .ok cache := ⟨_, rfl⟩
  refine ⟨small, large, smaller, larger, ?_, ?_, ?_⟩
  · rw [keys_reached smaller]
    decide
  · rw [keys_reached larger]
    decide
  · exact larger_covers_smaller (by decide) smaller larger _

end Lru

end PackGate.Cache
