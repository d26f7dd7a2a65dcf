import PackGate.Proofs.Cache.Transcript

/-! A cache hands back what was put into it or still holds it, and knows its last key. -/

namespace PackGate.Cache

variable {κ α : Type}

/-! ## What goes in and what comes out -/

/-- The entry that an operation puts into a cache. -/
def Operation.entered : Operation κ α → List (κ × α)
  | .insert key value => [(key, value)]
  | _ => []

/-- The entries that an operation hands back; its caller knows the key of what it replaces. -/
def Operation.handed : Operation κ α → Answer κ α → List (κ × α)
  | .insert key _, .insertion done => (done.displaced key).toList
  | .remove key, .value (some value) => [(key, value)]
  | .pop, .entry oldest => oldest.toList
  | .drain, .entries left => left
  | _, _ => []

/-- The entries that a cache hands back together with their keys. -/
def Operation.dismissed : Operation κ α → Answer κ α → List (κ × α)
  | .insert _ _, .insertion (.evicted key value) => [(key, value)]
  | .pop, .entry oldest => oldest.toList
  | .drain, .entries left => left
  | _, _ => []

/-- The entries that a history hands back. -/
def handedOver (steps : List (Operation κ α × Answer κ α)) : List (κ × α) :=
  steps.flatMap fun step => step.1.handed step.2

/-- Of what is put in, all that is not handed back is left. -/
structure Balanced (entered handed left : List (κ × α)) : Prop where
  /-- The values put in are those handed back and those left. -/
  values : (entered.map (·.2)).Perm (handed.map (·.2) ++ left.map (·.2))
  /-- Each has the key that it was put in under. -/
  entries : entered.Perm (handed ++ left)

/--
The order in which tasks that share a cache take its lock.

Each task goes through its own operations, and each operation is done while the lock is held.
-/
inductive Interleaves {ω : Type} : List (List ω) → List ω → Prop where
  /-- Every task is through. -/
  | done {programs : List (List ω)} (through : ∀ program ∈ programs, program = []) :
      Interleaves programs []
  /-- One of the tasks takes the lock for its next operation. -/
  | turn {before after : List (List ω)} {operation : ω} {rest history : List ω}
      (further : Interleaves (before ++ rest :: after) history) :
      Interleaves (before ++ (operation :: rest) :: after) (operation :: history)

/-- What is done under the lock is what the tasks do. -/
theorem Interleaves.perm {ω : Type} {programs : List (List ω)} {history : List ω}
    (interleaved : Interleaves programs history) : history.Perm programs.flatten := by
  -- Each turn moves an operation from the front of its task to the front of the history.
  induction interleaved with
  | done through => rw [List.flatten_eq_nil_iff.mpr through]
  | turn further ih =>
    refine (ih.cons _).trans ?_
    rw [List.flatten_append, List.flatten_append, List.flatten_cons, List.flatten_cons]
    exact List.perm_middle.symm

namespace Lru

variable [BEq κ] [Hashable κ]

/-- No value is put in under one key while it is there under another one. -/
def Owned (cache : Lru κ α) (operations : List (Operation κ α)) : Prop :=
  ∀ before key value after, operations = before ++ .insert key value :: after →
    ∀ other, (reached perform before cache).peek other = some value → other = key

/-- The last insertion under the key of an entry, and the last one of its value, is that of both. -/
def LastInserted (cache : Lru κ α) (operations : List (Operation κ α)) (entry : κ × α) : Prop :=
  ∃ before after, operations = before ++ .insert entry.1 entry.2 :: after ∧
    (∀ value, .insert entry.1 value ∉ after) ∧
      -- Two copies of a value that are there at once may be under different keys.
      (Owned cache operations → ∀ key, .insert key entry.2 ∉ after)

/-- Values are owned along a part of a history along which they are owned. -/
theorem Owned.of_append {cache : Lru κ α} {operations further : List (Operation κ α)}
    (owned : Owned cache (operations ++ further)) : Owned cache operations := by
  intro before key value after cut
  exact owned before key value (after ++ further) (by rw [cut, List.append_assoc, List.cons_append])

/-- The last insertion of an entry that is there stays the last one until its key gets a value. -/
theorem LastInserted.concat {cache : Lru κ α} {operations : List (Operation κ α)}
    {operation : Operation κ α} {entry : κ × α} (last : LastInserted cache operations entry)
    (there : (reached perform operations cache).peek entry.1 = some entry.2)
    (others : ∀ value, operation ≠ .insert entry.1 value) :
    LastInserted cache (operations ++ [operation]) entry := by
  obtain ⟨before, after, cut, fresh, own⟩ := last
  refine ⟨before, after ++ [operation], ?_, ?_, ?_⟩
  · rw [cut, List.append_assoc, List.cons_append]
  · intro value member
    rcases List.mem_append.mp member with earlier | next
    · exact fresh value earlier
    · exact others value (List.mem_singleton.mp next).symm
  · intro owned key member
    rcases List.mem_append.mp member with earlier | next
    · exact own owned.of_append key earlier
    · -- The value would be put in again while it is there, so under the same key.
      have next : .insert key entry.2 = operation := List.mem_singleton.mp next
      have same : entry.1 = key := owned operations key entry.2 [] (by rw [next]) entry.1 there
      exact others entry.2 (by rw [same, next])

end Lru

/-! ## The plain list -/

namespace Recency

/-- The last of some entries and those before it are all there are. -/
theorem pop_perm (entries : List (κ × α)) :
    (entries.getLast?.toList ++ entries.dropLast).Perm entries := by
  -- Without a last entry there are none at all.
  cases ending : entries.getLast? with
  | none =>
    rw [List.getLast?_eq_none_iff.mp ending]
    rfl
  | some last =>
    obtain ⟨rest, cut⟩ := List.getLast?_eq_some_iff.mp ending
    rw [cut, List.dropLast_concat]
    exact (List.perm_append_singleton last rest).symm

variable [BEq κ] [LawfulBEq κ] {list : Recency κ α}

/-- What is there and what comes in is handed back or stays. -/
theorem Proper.perform_perm (proper : list.Proper) (operation : Operation κ α) :
    (operation.handed (list.perform operation).1 ++ (list.perform operation).2.entries).Perm
      (operation.entered ++ list.entries) := by
  -- Lookups only change the order; the others hand back what they take out.
  cases operation with
  | insert key value => exact proper.insert_perm key value
  | get key => exact proper.get_perm key
  | contains key => exact proper.get_perm key
  | remove key =>
    simp only [perform, Prod.map, remove]
    cases found : list.peek key with
    | none => exact .refl _
    | some value => exact proper.perm found
  | pop => exact pop_perm list.entries
  | drain =>
    show (list.entries.reverse ++ []).Perm list.entries
    rw [List.append_nil]
    exact list.entries.reverse_perm
  | _ => exact .refl _

/-- What is dismissed was there. -/
theorem Proper.mem_of_dismissed (proper : list.Proper) {operation : Operation κ α}
    {entry : κ × α} (out : entry ∈ operation.dismissed (list.perform operation).1) :
    entry ∈ list.entries := by
  cases operation with
  | insert key value =>
    -- Of what an insertion displaces, only what it evicts is dismissed.
    have displaced : (list.insert key value).1.displaced key = some entry := by
      simp only [perform, Prod.map] at out
      cases done : (list.insert key value).1 with
      | evicted oldKey oldValue =>
        rw [done] at out
        rw [List.mem_singleton.mp out]
        rfl
      | _ =>
        rw [done] at out
        cases out
    exact proper.displaced_mem displaced
  | pop => exact List.mem_of_getLast? (Option.mem_toList.mp out)
  | drain => exact List.mem_reverse.mp out
  | _ => cases out

/-- What is there after an operation has just been put in, or was there and kept its value. -/
theorem Proper.mem_of_mem_perform (proper : list.Proper) {operation : Operation κ α}
    {entry : κ × α} (member : entry ∈ (list.perform operation).2.entries) :
    operation = .insert entry.1 entry.2 ∨
      entry ∈ list.entries ∧ ∀ value, operation ≠ .insert entry.1 value := by
  have there := (proper.perform_perm operation).subset (List.mem_append_right _ member)
  cases operation with
  | insert key value =>
    have inside : entry ∈ (list.insert key value).2.entries := member
    rw [proper.insert_entries] at inside
    -- What stands behind the new entry has other keys.
    rcases List.mem_cons.mp (List.mem_of_mem_take inside) with rfl | behind
    · exact .inl rfl
    · obtain ⟨kept, apart⟩ := mem_without.mp behind
      refine .inr ⟨kept, fun other same => ?_⟩
      cases same
      exact apart rfl
  | _ => exact .inr ⟨there, nofun⟩

end Recency

/-! ## Histories -/

namespace Lru

variable [BEq κ] [LawfulBEq κ] [Hashable κ] {layout : Layout} {capacity : Nat} {cache : Lru κ α}

/-- All that was put in by a history has been handed back or is there. -/
theorem entries_conserved (created : create layout capacity = .ok cache)
    (operations : List (Operation κ α)) :
    (handedOver (transcript perform operations cache) ++
      (reached perform operations cache).toList).Perm (operations.flatMap Operation.entered) := by
  have list : (reached perform operations cache).toList =
      (reached Recency.perform operations (Recency.empty capacity)).entries :=
    congrArg Recency.entries (reached_matches created operations).2
  rw [transcript_eq created, list]
  clear list
  -- Each operation settles its own account, and the accounts add up along the history.
  induction operations using List.reverseRecOn with
  | nil => rfl
  | append_singleton operations operation ih =>
    have step := (proper_reached created operations).perform_perm operation
    rw [transcript_concat, reached_concat, handedOver, List.flatMap_append, List.flatMap_append,
      List.flatMap_singleton, List.flatMap_singleton, List.append_assoc]
    -- What the last operation finds is what the others have left.
    refine (step.append_left _).trans ((List.perm_append_comm.append_left _).trans ?_)
    rw [← List.append_assoc]
    exact ih.append_right _

/-- What is there after a history of a new cache was last inserted as it is there. -/
theorem lastInserted_of_mem (created : create layout capacity = .ok cache)
    (operations : List (Operation κ α)) {entry : κ × α}
    (member : entry ∈ (reached perform operations cache).toList) :
    LastInserted cache operations entry := by
  -- By induction on the history: an entry has just been put in, or it was there and has stayed.
  induction operations using List.reverseRecOn with
  | nil =>
    have nothing : cache.toList = [] := congrArg Recency.entries (create_spec created).2
    have member : entry ∈ cache.toList := member
    rw [nothing] at member
    cases member
  | append_singleton operations operation ih =>
    obtain ⟨wellFormed, list⟩ := reached_matches created operations
    have left : (reached perform (operations ++ [operation]) cache).toList =
        ((reached perform operations cache).toRecency.perform operation).2.entries := by
      rw [reached_concat]
      exact congrArg Recency.entries (perform_matches wellFormed operation).list
    rw [left] at member
    rcases wellFormed.proper.mem_of_mem_perform member with rfl | ⟨there, others⟩
    · exact ⟨operations, [], rfl, nofun, fun _ => nofun⟩
    · refine (ih there).concat ?_ others
      rw [peek_eq wellFormed]
      exact wellFormed.proper.peek_eq_some_iff.mpr there

/--
A new cache hands back every value that is put into it exactly once, or still holds it.

This goes for every history of one task and for those of several tasks that share the cache; what
is evicted, popped or drained comes with the key that it was last inserted under.
-/
theorem values_conserved (created : create layout capacity = .ok cache) :
    (∀ operations : List (Operation κ α),
        Balanced (operations.flatMap Operation.entered)
          (handedOver (transcript perform operations cache))
          (reached perform operations cache).toList) ∧
      (∀ (programs : List (List (Operation κ α))) (history : List (Operation κ α)),
        Interleaves programs history →
          Balanced (programs.flatten.flatMap Operation.entered)
            (handedOver (transcript perform history cache))
            (reached perform history cache).toList) ∧
      ∀ (operations : List (Operation κ α)) (operation : Operation κ α),
        ∀ entry ∈ operation.dismissed ((reached perform operations cache).perform operation).1,
          LastInserted cache operations entry := by
  have balanced {entered : List (κ × α)} (operations : List (Operation κ α))
      (same : (operations.flatMap Operation.entered).Perm entered) :
      Balanced entered (handedOver (transcript perform operations cache))
        (reached perform operations cache).toList := by
    have entries := ((entries_conserved created operations).trans same).symm
    exact ⟨List.map_append ▸ entries.map (·.2), entries⟩
  refine ⟨fun operations => balanced operations (.refl _), fun programs history interleaved =>
    balanced history (interleaved.perm.flatMap_right _), fun operations operation entry out => ?_⟩
  -- What is dismissed was there before.
  obtain ⟨wellFormed, _⟩ := reached_matches created operations
  rw [(perform_matches wellFormed operation).answer] at out
  exact lastInserted_of_mem created operations (wellFormed.proper.mem_of_dismissed out)

/-- Two tasks share room for one entry, and values are updated, evicted and removed. -/
theorem values_conserved_two :
    ∃ cache : Lru Nat Nat, create ⟨16, 32⟩ 1 = .ok cache ∧
      (let history := [.insert 1 10, .insert 1 11, .insert 2 20, .remove 2, .insert 3 30];
        [10, 20, 11, 30].Perm ((handedOver (transcript perform history cache)).map (·.2) ++
          (reached perform history cache).toList.map (·.2))) ∧
      LastInserted cache [.insert 1 10, .insert 1 11] (1, 11) := by
  obtain ⟨cache, created⟩ : ∃ cache : Lru Nat Nat, create ⟨16, 32⟩ 1 = .ok cache := ⟨_, rfl⟩
  obtain ⟨_, shared, dismissed⟩ := values_conserved created
  refine ⟨cache, created, ?_, dismissed [.insert 1 10, .insert 1 11] (.insert 2 20) (1, 11) ?_⟩
  · refine (shared [[.insert 1 10, .insert 2 20], [.insert 1 11, .remove 2, .insert 3 30]]
      [.insert 1 10, .insert 1 11, .insert 2 20, .remove 2, .insert 3 30] ?_).values
    -- The second task puts its values in after the first one, and the first one comes between them.
    refine @Interleaves.turn _ [] [_] _ _ _ (@Interleaves.turn _ [_] [] _ _ _
      (@Interleaves.turn _ [] [_] _ _ _ (@Interleaves.turn _ [_] [] _ _ _
        (@Interleaves.turn _ [_] [] _ _ _ (.done ?_)))))
    simp
  · obtain ⟨wellFormed, list⟩ := reached_matches created [.insert 1 10, .insert 1 11]
    rw [(perform_matches wellFormed _).answer, list]
    decide

end Lru

end PackGate.Cache
