import Mathlib.Data.List.Nodup
import PackGate.Cache.Operation
import PackGate.Proofs.Cache.Operations

/-! What the operations do to the plain list of entries that a cache stands for. -/

namespace PackGate.Cache

variable {κ α : Type}

/-- The entry that an insertion under `key` pushes out of the cache. -/
def Insertion.displaced (key : κ) : Insertion κ α → Option (κ × α)
  | .inserted => none
  | .updated old => some (key, old)
  | .evicted oldKey oldValue => some (oldKey, oldValue)

namespace Recency

variable [BEq κ]

/-- The keys from the newest to the oldest. -/
def keys (list : Recency κ α) : List κ :=
  list.entries.map (·.1)

/-- A list of entries as a cache keeps it. -/
structure Proper (list : Recency κ α) : Prop where
  /-- No key is listed twice. -/
  distinct : list.keys.Nodup
  /-- There are no more entries than the capacity allows. -/
  bounded : list.entries.length ≤ list.capacity
  /-- There is room for an entry. -/
  positive : 0 < list.capacity

/-- No operation changes the capacity. -/
theorem capacity_perform (list : Recency κ α) (operation : Operation κ α) :
    (list.perform operation).2.capacity = list.capacity := by
  -- Whatever is found, what is left is the same list with other entries.
  cases operation with
  | insert key value =>
    simp only [perform, insert, Prod.map_snd, id]
    split
    · rfl
    · split
      · split <;> rfl
      · rfl
  | get key =>
    simp only [perform, get, Prod.map_snd, id]
    split <;> rfl
  | contains key =>
    simp only [perform, contains, get, Prod.map_snd, id]
    split <;> rfl
  | remove key =>
    simp only [perform, remove, Prod.map_snd, id]
    split <;> rfl
  | _ => rfl

/-- The keys without one of them are those of the other entries. -/
theorem keys_without (entries : List (κ × α)) (key : κ) :
    (without entries key).map (·.1) =
      (entries.map (·.1)).filter fun other => !(other == key) := by
  rw [List.filter_map]
  rfl

/-- Looking a key up with a promotion answers what looking it up in place answers. -/
theorem get_answer (list : Recency κ α) (key : κ) : (list.get key).1 = list.peek key := by
  rw [get]
  cases list.peek key <;> rfl

/-- Asking for a key with a promotion answers what asking for it in place answers. -/
theorem contains_answer (list : Recency κ α) (key : κ) :
    (list.contains key).1 = list.peekContains key :=
  congrArg Option.isSome (get_answer list key)

variable {list : Recency κ α} {key : κ} {value : α}

/-- An insertion updates the value that its key is found with. -/
theorem insert_eq_updated_iff {old : α} :
    (list.insert key value).1 = .updated old ↔ list.peek key = some old := by
  -- A key that is not found leads to an entry more, with or without an eviction.
  unfold insert
  cases found : list.peek key with
  | some other => simp
  | none =>
    simp only [reduceCtorEq, iff_false]
    split
    · split <;> simp
    · simp

/--
An insertion updates the value of a key that is found, enters another key where there is room, and
gives it the place of the last entry where there is none.
-/
theorem Proper.insert_cases (proper : list.Proper) (key : κ) (value : α) :
    (∃ old, list.peek key = some old ∧ list.insert key value =
        (.updated old, ⟨(key, value) :: without list.entries key, list.capacity⟩)) ∨
      (list.peek key = none ∧ list.entries.length < list.capacity ∧
        list.insert key value = (.inserted, ⟨(key, value) :: list.entries, list.capacity⟩)) ∨
      ∃ rest last, list.peek key = none ∧ list.entries.length = list.capacity ∧
        list.entries = rest ++ [last] ∧ list.insert key value =
          (.evicted last.1 last.2, ⟨(key, value) :: rest, list.capacity⟩) := by
  have bounded := proper.bounded
  have positive := proper.positive
  rw [insert]
  cases found : list.peek key with
  | some old => exact .inl ⟨old, rfl, rfl⟩
  | none =>
    by_cases full : list.capacity ≤ list.entries.length
    · -- A full list is not empty, so there is a last entry.
      have nonempty : list.entries ≠ [] := List.ne_nil_of_length_pos (by omega)
      refine .inr (.inr ⟨list.entries.dropLast, list.entries.getLast nonempty, rfl, by omega,
        (List.dropLast_append_getLast nonempty).symm, ?_⟩)
      simp only [if_pos full, List.getLast?_eq_some_getLast nonempty]
    · exact .inr (.inl ⟨rfl, by omega, by simp only [if_neg full]⟩)

variable [LawfulBEq κ]

/-- A key that is not found is that of no entry. -/
theorem peek_eq_none_iff : list.peek key = none ↔ ∀ entry ∈ list.entries, entry.1 ≠ key := by
  -- The library compares the key that is looked up with each entry's, the other way round.
  rw [peek, List.lookup_eq_none_iff]
  refine forall₂_congr fun entry _ => ?_
  simp [eq_comm (a := key)]

/-- Removing a key leaves the entries of other keys. -/
theorem remove_eq (list : Recency κ α) (key : κ) :
    (list.remove key).2 = ⟨without list.entries key, list.capacity⟩ := by
  -- A key that is not found has no entry to be left out.
  rw [remove]
  cases found : list.peek key with
  | none => rw [without_absent (peek_eq_none_iff.mp found)]
  | some value => rfl

/-- A key is present if it is listed. -/
theorem peekContains_iff : list.peekContains key = true ↔ key ∈ list.keys := by
  rw [peekContains, Option.isSome_iff_ne_none, ne_eq, peek_eq_none_iff, keys, List.mem_map]
  push Not
  rfl

/-- An entry is left without a key if it is an entry of another key. -/
theorem mem_without {entries : List (κ × α)} {entry : κ × α} :
    entry ∈ without entries key ↔ entry ∈ entries ∧ entry.1 ≠ key := by
  simp [without]

/-- The entry of a key that is found and the entries of other keys are all there are. -/
theorem Proper.perm (proper : list.Proper) (found : list.peek key = some value) :
    ((key, value) :: without list.entries key).Perm list.entries := by
  -- The first entry of the key is found, and behind it there is no other.
  obtain ⟨front, back, cut, _⟩ := List.lookup_eq_some_iff.mp found
  have others : without list.entries key = front ++ back := by
    rw [cut]
    refine without_middle value fun entry member same => ?_
    have distinct := proper.distinct
    rw [keys, cut, List.map_append, List.map_cons, List.perm_middle.nodup_iff,
      ← List.map_append] at distinct
    exact (List.nodup_cons.mp distinct).1 (List.mem_map.mpr ⟨entry, member, same⟩)
  rw [others, cut]
  exact List.perm_middle.symm

/-- A key is found with the value that it is listed with. -/
theorem Proper.peek_eq_some_iff (proper : list.Proper) :
    list.peek key = some value ↔ (key, value) ∈ list.entries := by
  constructor
  · intro found
    exact (proper.perm found).subset (by simp)
  · intro member
    cases found : list.peek key with
    | none => exact absurd rfl (peek_eq_none_iff.mp found _ member)
    | some other =>
      -- Every other entry is one of another key.
      rcases List.mem_cons.mp ((proper.perm found).symm.subset member) with same | elsewhere
      · rw [Prod.mk.injEq] at same
        rw [same.2]
      · exact absurd rfl (mem_without.mp elsewhere).2

/-- The entries of other keys leave room for the entry of a key. -/
theorem Proper.length_without (proper : list.Proper) (key : κ) :
    (without list.entries key).length + (if list.peekContains key then 1 else 0) =
      list.entries.length := by
  rw [peekContains]
  cases found : list.peek key with
  | none => rw [without_absent (peek_eq_none_iff.mp found)]; rfl
  | some value => exact (proper.perm found).length_eq

/-- An insertion puts its entry in front of those of other keys and cuts them to the capacity. -/
theorem Proper.insert_entries (proper : list.Proper) (key : κ) (value : α) :
    (list.insert key value).2.entries =
      ((key, value) :: without list.entries key).take list.capacity := by
  have bounded := proper.bounded
  rcases proper.insert_cases key value with ⟨old, found, done⟩ | ⟨absent, room, done⟩ |
    ⟨rest, last, absent, full, cut, done⟩
  · -- The entry takes the place of another one.
    rw [done, List.take_of_length_le]
    exact Nat.le_trans (Nat.le_of_eq (proper.perm found).length_eq) bounded
  · rw [done, without_absent (peek_eq_none_iff.mp absent), List.take_of_length_le]
    exact room
  · -- One entry too many is what stands last.
    rw [done, without_absent (peek_eq_none_iff.mp absent), cut, ← full, cut, ← List.cons_append,
      List.take_left']
    simp

/-- Looking a key up changes the order of the entries at most. -/
theorem Proper.get_perm (proper : list.Proper) (key : κ) :
    (list.get key).2.entries.Perm list.entries := by
  -- The entry that is found is moved, and nothing else is.
  rw [get]
  cases found : list.peek key with
  | none => rfl
  | some value => exact proper.perm found

/-- Of the entries and a new one, an insertion keeps all but the one that it displaces. -/
theorem Proper.insert_perm (proper : list.Proper) (key : κ) (value : α) :
    (((list.insert key value).1.displaced key).toList ++ (list.insert key value).2.entries).Perm
      ((key, value) :: list.entries) := by
  rcases proper.insert_cases key value with ⟨old, found, done⟩ | ⟨_, _, done⟩ |
    ⟨rest, last, _, _, cut, done⟩ <;> rw [done]
  · -- The old value of the key is handed back, and its new one stands in its place.
    exact (List.Perm.swap ..).trans ((proper.perm found).cons _)
  · rfl
  · rw [cut]
    exact (List.Perm.swap ..).trans ((List.perm_append_singleton last rest).symm.cons _)

/-- An insertion displaces an entry that was there. -/
theorem Proper.displaced_mem (proper : list.Proper) {entry : κ × α}
    (out : (list.insert key value).1.displaced key = some entry) : entry ∈ list.entries := by
  -- An insertion that finds room displaces nothing, which leaves the other two cases.
  rcases proper.insert_cases key value with ⟨old, found, done⟩ | ⟨_, _, done⟩ |
    ⟨rest, last, _, _, cut, done⟩ <;> rw [done] at out <;> cases out
  · exact proper.peek_eq_some_iff.mp found
  · rw [cut]
    exact List.mem_append_right _ List.mem_cons_self

/-- An insertion leaves the new entry and of the others all but the one that it displaces. -/
theorem Proper.mem_insert (proper : list.Proper) {entry : κ × α} :
    entry ∈ (list.insert key value).2.entries ↔ entry = (key, value) ∨
      entry ∈ list.entries ∧ (list.insert key value).1.displaced key ≠ some entry := by
  rcases proper.insert_cases key value with ⟨old, found, done⟩ | ⟨_, _, done⟩ |
    ⟨rest, last, _, _, cut, done⟩ <;> rw [done, List.mem_cons] <;> refine or_congr_right ?_
  · -- The one entry under the key is the one that is displaced.
    rw [mem_without]
    refine and_congr_right fun member => not_congr ⟨fun same => ?_, ?_⟩
    · have there := proper.peek_eq_some_iff.mpr member
      rw [same, found] at there
      rw [Insertion.displaced, ← same, Option.some.inj there]
    · rintro ⟨⟩
      rfl
  · -- With room to spare nothing is displaced.
    simp [Insertion.displaced]
  · -- The last entry is listed once, so it is not among the others.
    have distinct : (rest ++ [last]).Nodup := cut ▸ proper.distinct.of_map
    have apart : last ∉ rest := fun member =>
      (List.nodup_append.mp distinct).2.2 last member last List.mem_cons_self rfl
    rw [cut, List.mem_append, List.mem_singleton]
    constructor
    · intro member
      refine ⟨.inl member, fun same => ?_⟩
      have equal : last = entry := Option.some.inj same
      exact apart (equal ▸ member)
    · rintro ⟨member | same, lost⟩
      · exact member
      · exact absurd (congrArg some same.symm) lost

end Recency

end PackGate.Cache
