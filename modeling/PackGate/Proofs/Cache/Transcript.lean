import Mathlib.Data.List.Induction
import PackGate.Proofs.Cache.Contents

/-! Histories taken one operation at a time, and the caches that they lead to. -/

namespace PackGate.Cache

/-! ## Histories -/

section Histories

variable {σ ω β : Type} (perform : σ → ω → β × σ)

/-- The state that a history of operations leads to. -/
def reached (operations : List ω) (state : σ) : σ :=
  (answers perform operations state).2

/-- Every operation of a history beside its answer. -/
def transcript (operations : List ω) (state : σ) : List (ω × β) :=
  operations.zip (answers perform operations state).1

/-- Every operation is answered once. -/
theorem length_answers (operations : List ω) (state : σ) :
    (answers perform operations state).1.length = operations.length := by
  induction operations generalizing state with
  | nil => rfl
  | cons operation rest ih => simp [answers, ih]

/-- One more operation is answered in the state that the others led to. -/
theorem answers_concat (operations : List ω) (operation : ω) (state : σ) :
    answers perform (operations ++ [operation]) state =
      ((answers perform operations state).1 ++ [(perform (reached perform operations state)
        operation).1], (perform (reached perform operations state) operation).2) := by
  -- The answers are computed from the front, so the state changes along the induction.
  induction operations generalizing state with
  | nil => rfl
  | cons first rest ih => simp [answers, reached, ih]

/-- One more operation is performed in the state that the others led to. -/
theorem reached_concat (operations : List ω) (operation : ω) (state : σ) :
    reached perform (operations ++ [operation]) state =
      (perform (reached perform operations state) operation).2 := by
  rw [reached, answers_concat]

/-- One more operation adds itself and its answer to the transcript. -/
theorem transcript_concat (operations : List ω) (operation : ω) (state : σ) :
    transcript perform (operations ++ [operation]) state =
      transcript perform operations state ++
        [(operation, (perform (reached perform operations state) operation).1)] := by
  -- There is one answer for each operation so far, so the last two stand side by side.
  rw [transcript, answers_concat, List.zip_append (length_answers perform operations state).symm]
  rfl

end Histories

variable {κ α : Type} [BEq κ]

/-- No history changes the capacity. -/
theorem Recency.capacity_reached (list : Recency κ α) (operations : List (Operation κ α)) :
    (reached Recency.perform operations list).capacity = list.capacity := by
  induction operations using List.reverseRecOn with
  | nil => rfl
  | append_singleton operations operation ih => rw [reached_concat, Recency.capacity_perform, ih]

/-! ## Histories of a new cache -/

namespace Lru

variable [Hashable κ] {cache : Lru κ α}

variable [LawfulBEq κ] {layout : Layout} {capacity : Nat}

/-- A history of a new cache leads to a well-formed one, which lists what the plain list does. -/
theorem reached_matches (created : create layout capacity = .ok cache)
    (operations : List (Operation κ α)) :
    WellFormed (reached perform operations cache) ∧
      (reached perform operations cache).toRecency =
        reached Recency.perform operations (Recency.empty capacity) := by
  -- A new cache lists nothing, which is where the plain list starts.
  obtain ⟨wellFormed, list⟩ := create_spec created
  obtain ⟨_, kept, left⟩ := answers_matches wellFormed operations
  rw [list] at left
  exact ⟨kept, left⟩

/-- A history of a new cache leads to the keys of the plain list. -/
theorem keys_reached (created : create layout capacity = .ok cache)
    (operations : List (Operation κ α)) :
    (reached perform operations cache).keys =
      (reached Recency.perform operations (Recency.empty capacity)).keys := by
  rw [← (reached_matches created operations).2]
  rfl

/-- A history of a new cache is answered as that of the plain list. -/
theorem transcript_eq (created : create layout capacity = .ok cache)
    (operations : List (Operation κ α)) :
    transcript perform operations cache =
      transcript Recency.perform operations (Recency.empty capacity) := by
  -- Every operation is answered alike, so each stands beside the same answer.
  obtain ⟨wellFormed, list⟩ := create_spec created
  have answer := (answers_matches wellFormed operations).answer
  rw [list] at answer
  rw [transcript, transcript, answer]

/-- The plain list that a history leads to is one as a cache keeps it. -/
theorem proper_reached (created : create layout capacity = .ok cache)
    (operations : List (Operation κ α)) :
    (reached Recency.perform operations (Recency.empty capacity)).Proper := by
  -- It is the list of a cache, and the cache has kept its own invariants.
  obtain ⟨wellFormed, list⟩ := reached_matches created operations
  rw [← list]
  exact wellFormed.proper

end Lru

end PackGate.Cache
