import Mathlib.Data.List.Dedup
import Mathlib.Data.List.Induction

/-! Keys ranked by their last use, the one used last in front. -/

namespace PackGate.Cache

variable {κ : Type}

/-- A key that was used was used last at some place. -/
theorem exists_last_use {uses : List κ} {key : κ} (used : key ∈ uses) :
    ∃ earlier later, uses = earlier ++ key :: later ∧ key ∉ later := by
  -- The last use is the first one met from the end.
  obtain ⟨later, earlier, cut, last⟩ := List.eq_append_cons_of_mem (List.mem_reverse.mpr used)
  refine ⟨earlier.reverse, later.reverse, ?_, by simpa using last⟩
  rw [← List.reverse_reverse uses, cut]
  simp

variable [BEq κ]

/-- A key in front of the others. -/
def raise (key : κ) (keys : List κ) : List κ :=
  key :: keys.filter fun other => !(other == key)

/-- The keys that were used, the one that was used last in front. -/
def ranking (uses : List κ) : List κ :=
  uses.foldl (fun ranks key => raise key ranks) []

/-- One more use puts its key in front. -/
theorem ranking_concat (uses : List κ) (key : κ) :
    ranking (uses ++ [key]) = raise key (ranking uses) := by
  rw [ranking, List.foldl_append]
  rfl

variable [LawfulBEq κ]

/-- A raised key joins the others. -/
theorem mem_raise {key other : κ} {keys : List κ} :
    other ∈ raise key keys ↔ other = key ∨ other ∈ keys := by
  by_cases same : other = key <;> simp [raise, same]

/-- A raised key is nowhere else. -/
theorem nodup_raise {key : κ} {keys : List κ} (distinct : keys.Nodup) : (raise key keys).Nodup := by
  refine List.nodup_cons.mpr ⟨?_, distinct.filter _⟩
  simp

/-- The ranked keys are those used. -/
theorem mem_ranking {uses : List κ} {key : κ} : key ∈ ranking uses ↔ key ∈ uses := by
  induction uses using List.reverseRecOn with
  | nil => rfl
  | append_singleton uses last ih =>
    rw [ranking_concat, mem_raise, ih, List.mem_append, List.mem_singleton, or_comm]

/-- No key is ranked twice. -/
theorem nodup_ranking (uses : List κ) : (ranking uses).Nodup := by
  -- Each use takes its key out of the ranks before it puts it in front of them.
  induction uses using List.reverseRecOn with
  | nil => exact List.nodup_nil
  | append_singleton uses last ih =>
    rw [ranking_concat]
    exact nodup_raise ih

/-- In front of a key are ranked the keys that were used after its last use. -/
theorem ranking_split (earlier : List κ) {later : List κ} {key : κ} (last : key ∉ later) :
    ∃ rest, ranking (earlier ++ key :: later) = ranking later ++ key :: rest := by
  -- Every later use raises its key above this one and leaves the keys behind it behind it.
  induction later using List.reverseRecOn with
  | nil => exact ⟨_, ranking_concat earlier key⟩
  | append_singleton later next ih =>
    rw [List.mem_append, List.mem_singleton, not_or] at last
    obtain ⟨rest, split⟩ := ih last.1
    refine ⟨rest.filter fun other => !(other == next), ?_⟩
    rw [← List.cons_append, ← List.append_assoc, ranking_concat, ranking_concat, split]
    simp [raise, last.2]

/-- Leaving a key out of others changes nothing. -/
theorem filter_of_not_mem {key : κ} {keys : List κ} (absent : key ∉ keys) :
    (keys.filter fun other => !(other == key)) = keys := by
  rw [List.filter_eq_self]
  intro other member
  simpa using fun same : other = key => absent (same ▸ member)

/-- With one place to spare, a key may be left out before or after a cut to a window. -/
theorem take_filter_take {ranks : List κ} (distinct : ranks.Nodup) (key : κ) (window : Nat) :
    ((ranks.take (window + 1)).filter fun other => !(other == key)).take window =
      (ranks.filter fun other => !(other == key)).take window := by
  -- The induction goes down the ranks until it meets the key or the window closes.
  induction ranks generalizing window with
  | nil => simp
  | cons rank ranks ih =>
    obtain ⟨fresh, distinct⟩ := List.nodup_cons.mp distinct
    by_cases same : rank = key
    · -- Behind the key there is nothing left to leave out.
      subst same
      have later : rank ∉ ranks.take window := fun member => fresh (List.mem_of_mem_take member)
      simp [filter_of_not_mem fresh, filter_of_not_mem later, List.take_take]
    · cases window with
      | zero => simp
      | succ window => simpa [same] using ih distinct window

/-- Raising a key before or after a list is cut to a window leads to the same window. -/
theorem take_raise_take {ranks : List κ} (distinct : ranks.Nodup) (key : κ) (window : Nat) :
    (raise key (ranks.take window)).take window = (raise key ranks).take window := by
  cases window with
  | zero => rfl
  | succ window =>
    -- The raised key takes one place of the window, which leaves one to spare for the others.
    exact congrArg (key :: ·) (take_filter_take distinct key window)

variable [DecidableEq κ]

/-- A key was used, and fewer than `window` different keys were used after its last use. -/
def UsedWithin (window : Nat) (uses : List κ) (key : κ) : Prop :=
  -- What follows the last use of a key is free of it, so the keys counted are other ones.
  ∃ earlier later, uses = earlier ++ key :: later ∧ key ∉ later ∧ later.dedup.length < window

/-- As many keys are ranked as different ones were used. -/
theorem length_ranking (uses : List κ) : (ranking uses).length = uses.dedup.length := by
  -- Neither list repeats a key, and both have those that were used.
  refine List.Perm.length_eq ?_
  rw [List.perm_ext_iff_of_nodup (nodup_ranking uses) (List.nodup_dedup uses)]
  intro key
  rw [mem_ranking, List.mem_dedup]

/-- A key is ranked within a window if few enough different keys were used after its last use. -/
theorem mem_take_ranking_cut (earlier : List κ) {later : List κ} {key : κ} (last : key ∉ later)
    {window : Nat} :
    key ∈ (ranking (earlier ++ key :: later)).take window ↔ later.dedup.length < window := by
  -- A key is ranked right behind the keys that were used after its last use.
  obtain ⟨rest, split⟩ := ranking_split earlier last
  have fresh : key ∉ ranking later := fun member => last (mem_ranking.mp member)
  rw [split, ← length_ranking, List.take_append, List.mem_append]
  constructor
  · rintro (member | member)
    · exact absurd (List.mem_of_mem_take member) fresh
    · -- The window reaches past the later keys, or it would hold nothing of what follows.
      by_contra few
      rw [Nat.sub_eq_zero_of_le (Nat.not_lt.mp few)] at member
      simp at member
  · intro few
    obtain ⟨room, fits⟩ := Nat.exists_eq_add_of_lt few
    right
    rw [fits, Nat.add_assoc, Nat.add_sub_cancel_left, List.take_succ_cons]
    exact List.mem_cons_self

/-- The keys ranked first are those that were used within as many other keys. -/
theorem mem_take_ranking {window : Nat} {uses : List κ} {key : κ} :
    key ∈ (ranking uses).take window ↔ UsedWithin window uses key := by
  constructor
  · intro member
    -- Whatever is ranked was used, so it has a last use.
    obtain ⟨earlier, later, rfl, last⟩ :=
      exists_last_use (mem_ranking.mp (List.mem_of_mem_take member))
    exact ⟨earlier, later, rfl, last, (mem_take_ranking_cut earlier last).mp member⟩
  · rintro ⟨earlier, later, rfl, last, few⟩
    exact (mem_take_ranking_cut earlier last).mpr few

/-- Whether a key was used within a window can be read off the ranking. -/
instance (window : Nat) (uses : List κ) (key : κ) : Decidable (UsedWithin window uses key) :=
  decidable_of_iff _ mem_take_ranking

end PackGate.Cache
