import PackGate.Cache.Operation
import PackGate.Proofs.Cache.Operations
import PackGate.Proofs.Cache.Room

/-! A cache of linked slots answers every history of operations like one plain list of entries. -/

namespace PackGate.Cache

variable {κ α : Type} [BEq κ] [Hashable κ]

namespace Lru

/-- Without its check an operation that succeeds matches the plain list all the same. -/
theorem Succeeds.getD {β : Type} {checked : Option (β × Lru κ α)} {expected : β × Recency κ α}
    (succeeds : Succeeds checked expected) (other : β × Lru κ α) :
    Matches (checked.getD other) expected := by
  -- The operation does not fail, so what stands in for a failure is never used.
  obtain ⟨done, found, same⟩ := succeeds
  rw [found]
  exact same

/-- Showing what is answered in another form keeps a match. -/
theorem Matches.map {β γ : Type} {done : β × Lru κ α} {expected : β × Recency κ α} (form : β → γ)
    (same : Matches done expected) :
    Matches (form done.1, done.2) (form expected.1, expected.2) :=
  ⟨congrArg form same.answer, same.wellFormed, same.list⟩

section Operations

variable {cache : Lru κ α}

/-- Reading the oldest entry reads the end of the plain list. -/
theorem peekOldest_eq (wellFormed : WellFormed cache) :
    cache.peekOldest = cache.toRecency.peekOldest := by
  rw [peekOldest, peekOldestChecked_eq wellFormed]
  rfl

variable [LawfulBEq κ]

/-- Looking a key up and promoting it matches the plain list. -/
theorem get_matches (wellFormed : WellFormed cache) (key : κ) :
    Matches (cache.get key) (cache.toRecency.get key) :=
  (getChecked_succeeds wellFormed key).getD _

/-- Asking for a key and promoting it matches the plain list. -/
theorem contains_matches (wellFormed : WellFormed cache) (key : κ) :
    Matches (cache.contains key) (cache.toRecency.contains key) :=
  (containsChecked_succeeds wellFormed key).getD _

/-- Giving a key a value matches the plain list. -/
theorem insert_matches (wellFormed : WellFormed cache) (key : κ) (value : α) :
    Matches (cache.insert key value) (cache.toRecency.insert key value) :=
  (insertChecked_succeeds wellFormed key value).getD _

/-- Removing a key matches the plain list. -/
theorem remove_matches (wellFormed : WellFormed cache) (key : κ) :
    Matches (cache.remove key) (cache.toRecency.remove key) :=
  (removeChecked_succeeds wellFormed key).getD _

/-- Removing the oldest entry matches the plain list. -/
theorem pop_matches (wellFormed : WellFormed cache) :
    Matches cache.pop cache.toRecency.pop :=
  (popChecked_succeeds wellFormed).getD _

/-- Looking a key up in place reads what the plain list reads. -/
theorem peek_eq (wellFormed : WellFormed cache) (key : κ) :
    cache.peek key = cache.toRecency.peek key := by
  rw [peek, peekChecked_eq wellFormed]
  rfl

/-- A cache that lists something pops the last entry listed. -/
theorem pop_last (wellFormed : WellFormed cache) (nonempty : cache.toList ≠ []) :
    ∃ entry rest, cache.pop = (some entry, rest) ∧ WellFormed rest ∧
      cache.toList = rest.toList ++ [entry] ∧ rest.capacity = cache.capacity := by
  obtain ⟨answer, kept, left⟩ := pop_matches wellFormed
  have last : cache.pop.1 = some (cache.toList.getLast nonempty) :=
    answer.trans (List.getLast?_eq_some_getLast nonempty)
  have rest : cache.pop.2.toList = cache.toList.dropLast := congrArg Recency.entries left
  refine ⟨_, cache.pop.2, by rw [← last], kept, ?_, congrArg Recency.capacity left⟩
  rw [rest, List.dropLast_append_getLast]

/-- Popping as often as there are entries hands all of them out, the last of the list first. -/
theorem popUpTo_matches (limit : Nat) (wellFormed : WellFormed cache)
    (enough : cache.toList.length = limit) :
    Matches (popUpTo limit cache) cache.toRecency.drain := by
  -- Each pop takes one entry off the end of the list.
  induction limit generalizing cache with
  | zero =>
    have empty : cache.toList = [] := List.length_eq_zero_iff.mp enough
    refine ⟨?_, wellFormed, ?_⟩ <;> simp [popUpTo, Recency.drain, toRecency, empty]
  | succ limit ih =>
    obtain ⟨entry, rest, popped, kept, list, capacity⟩ :=
      pop_last wellFormed (List.ne_nil_of_length_eq_add_one enough)
    rw [list, List.length_append, List.length_singleton] at enough
    obtain ⟨entries, emptied, left⟩ := ih kept (Nat.add_right_cancel enough)
    rw [popUpTo, popped]
    refine ⟨?_, emptied, ?_⟩
    · show entry :: (popUpTo limit rest).1 = cache.toList.reverse
      rw [entries, list, List.reverse_concat]
      rfl
    · rw [left, Recency.drain, Recency.drain]
      exact congrArg (Recency.mk []) capacity

/-- Draining matches the plain list. -/
theorem drain_matches (wellFormed : WellFormed cache) :
    Matches cache.drain cache.toRecency.drain :=
  popUpTo_matches _ wellFormed wellFormed.length_toList

end Operations

/-- A new cache is well formed and lists nothing. -/
theorem create_spec {layout : Layout} {capacity : Nat} {cache : Lru κ α}
    (created : create layout capacity = .ok cache) :
    WellFormed cache ∧ cache.toRecency = Recency.empty capacity := by
  obtain ⟨rfl, positive, _⟩ := create_made created
  -- Nothing is stored, so the empty chain will do.
  refine ⟨⟨⟨[], ⟨⟨List.nodup_nil, ?_, rfl, rfl⟩, ?_, ?_⟩⟩, Nat.zero_le _, ?_⟩, rfl⟩
  · intro before slot after cut
    simp at cut
  · intro slot within
    simp at within
  · intro key slot
    simp [entries]
  · exact positive

variable [LawfulBEq κ]

/-- Whatever is asked of a well-formed cache, it answers and changes like the plain list. -/
theorem perform_matches {cache : Lru κ α} (wellFormed : WellFormed cache)
    (operation : Operation κ α) :
    Matches (cache.perform operation) (cache.toRecency.perform operation) := by
  -- Operations that only read leave both sides alone; the others have been matched one by one.
  cases operation with
  | insert key value => exact (insert_matches wellFormed key value).map Answer.insertion
  | get key => exact (get_matches wellFormed key).map Answer.value
  | contains key => exact (contains_matches wellFormed key).map Answer.presence
  | peek key => exact ⟨congrArg Answer.value (peek_eq wellFormed key), wellFormed, rfl⟩
  | peekContains key =>
    exact ⟨congrArg Answer.presence (peekContains_eq wellFormed key), wellFormed, rfl⟩
  | peekOldest => exact ⟨congrArg Answer.entry (peekOldest_eq wellFormed), wellFormed, rfl⟩
  | remove key => exact (remove_matches wellFormed key).map Answer.value
  | pop => exact (pop_matches wellFormed).map Answer.entry
  | drain => exact (drain_matches wellFormed).map Answer.entries
  | size => exact ⟨congrArg Answer.number wellFormed.length_toList.symm, wellFormed, rfl⟩
  | keys => exact ⟨rfl, wellFormed, rfl⟩

/-- A history of operations on a well-formed cache matches the same history of the plain list. -/
theorem answers_matches {cache : Lru κ α} (wellFormed : WellFormed cache)
    (operations : List (Operation κ α)) :
    Matches (answers perform operations cache)
      (answers Recency.perform operations cache.toRecency) := by
  -- Each operation leaves two sides that match, and the rest of the history starts from them.
  induction operations generalizing cache with
  | nil => exact ⟨rfl, wellFormed, rfl⟩
  | cons operation rest ih =>
    obtain ⟨answer, kept, list⟩ := perform_matches wellFormed operation
    obtain ⟨further, last, lists⟩ := ih kept
    rw [list] at further lists
    exact ⟨congrArg₂ List.cons answer further, last, lists⟩

/--
Every answer of a new cache, and the order of its keys, is that of a plain list of entries.

The history may be of any length and of any operations, and the keys and values of any types.
-/
theorem answers_eq_recency {layout : Layout} {capacity : Nat} {cache : Lru κ α}
    (created : create layout capacity = .ok cache) (operations : List (Operation κ α)) :
    (answers perform operations cache).1 =
        (answers Recency.perform operations (Recency.empty capacity)).1 ∧
      (answers perform operations cache).2.keys =
        (answers Recency.perform operations (Recency.empty capacity)).2.entries.map (·.1) := by
  -- A new cache lists nothing, which is where the plain list starts.
  obtain ⟨wellFormed, list⟩ := create_spec created
  obtain ⟨answer, _, last⟩ := answers_matches wellFormed operations
  rw [list] at answer last
  exact ⟨answer, congrArg (fun left => left.entries.map (·.1)) last⟩

/-- A history that hits, evicts, removes from the middle and drains a cache of three entries. -/
theorem answers_eq_recency_three :
    ∃ cache : Lru Nat Nat, create ⟨16, 32⟩ 3 = .ok cache ∧
      (answers perform [.insert 1 10, .insert 2 20, .insert 3 30, .get 1, .insert 4 40, .remove 1,
          .insert 5 50, .insert 3 31, .drain, .pop, .insert 6 60] cache).1 =
        [.insertion .inserted, .insertion .inserted, .insertion .inserted, .value (some 10),
          .insertion (.evicted 2 20), .value (some 10), .insertion .inserted,
          .insertion (.updated 30), .entries [(4, 40), (5, 50), (3, 31)], .entry none,
          .insertion .inserted] ∧
      (answers perform [.insert 1 10, .insert 2 20, .get 1] cache).2.keys = [1, 2] := by
  obtain ⟨cache, created⟩ : ∃ cache : Lru Nat Nat, create ⟨16, 32⟩ 3 = .ok cache := ⟨_, rfl⟩
  refine ⟨cache, created, ?_, ?_⟩
  · exact (answers_eq_recency created _).1.trans (by decide)
  · exact (answers_eq_recency created _).2.trans (by decide)

end Lru

end PackGate.Cache
