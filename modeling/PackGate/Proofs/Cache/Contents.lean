import Mathlib.Data.List.Nodup
import PackGate.Proofs.Cache.PlainList
import PackGate.Proofs.Cache.Refinement

/-! Which entries a cache holds after an operation, whatever their order. -/

namespace PackGate.Cache

variable {κ α : Type} [BEq κ] [Hashable κ]

/-- Slots that are met once have keys that are met once. -/
theorem Indexed.keys_nodup {slots : Std.HashMap κ Nat} {entries : Array (κ × α)}
    (indexed : Indexed slots entries) {chain : List Nat} (distinct : chain.Nodup) :
    ((along entries chain).map (·.1)).Nodup := by
  induction chain with
  | nil => simp [along]
  | cons slot rest ih =>
    obtain ⟨fresh, tail⟩ := List.nodup_cons.mp distinct
    cases found : entries[slot]? with
    | none => simpa [along, found] using ih tail
    | some entry =>
      rw [along_cons found, List.map_cons, List.nodup_cons]
      refine ⟨?_, ih tail⟩
      -- A later entry with the same key would be held by the same slot, which is met once.
      rw [List.mem_map]
      rintro ⟨other, member, same⟩
      obtain ⟨position, within, held⟩ := mem_along.mp member
      obtain ⟨otherKey, otherValue⟩ := other
      subst same
      exact fresh (indexed.unique held found ▸ within)

namespace Lru

/-- No key is listed twice. -/
theorem WellFormed.keys_nodup {cache : Lru κ α} (wellFormed : WellFormed cache) :
    cache.keys.Nodup := by
  obtain ⟨chain, stores⟩ := wellFormed.stored
  rw [keys, stores.toList_eq]
  exact stores.indexed.keys_nodup stores.distinct

/-- A well-formed cache lists its entries as it should. -/
theorem WellFormed.proper {cache : Lru κ α} (wellFormed : WellFormed cache) :
    cache.toRecency.Proper where
  distinct := wellFormed.keys_nodup
  bounded := by
    -- The list is as long as the slab, of which the bound is known.
    show cache.toList.length ≤ cache.capacity
    rw [wellFormed.length_toList]
    exact wellFormed.bounded
  positive := wellFormed.positive

variable [LawfulBEq κ] {cache : Lru κ α}

/-- Looking a key up changes the order of the entries at most. -/
theorem get_perm (wellFormed : WellFormed cache) (key : κ) :
    (cache.get key).2.toList.Perm cache.toList := by
  have left : (cache.get key).2.toList = (cache.toRecency.get key).2.entries :=
    congrArg Recency.entries (get_matches wellFormed key).list
  rw [left]
  exact wellFormed.proper.get_perm key

/-- Looking a key up finds its entry, and the same entries are left. -/
theorem get_contents (wellFormed : WellFormed cache) (key : κ) :
    (∀ value, (cache.get key).1 = some value → (key, value) ∈ cache.toList) ∧
      ∀ entry, entry ∈ (cache.get key).2.toList ↔ entry ∈ cache.toList := by
  refine ⟨fun value hit => ?_, fun entry => (get_perm wellFormed key).mem_iff⟩
  -- The plain list answers the same, and it finds only what it lists.
  rw [(get_matches wellFormed key).answer, Recency.get_answer] at hit
  exact wellFormed.proper.peek_eq_some_iff.mp hit

/-- Of the entries and a new one, an insertion keeps all but the one that it displaces. -/
theorem insert_perm (wellFormed : WellFormed cache) (key : κ) (value : α) :
    (((cache.insert key value).1.displaced key).toList ++ (cache.insert key value).2.toList).Perm
      ((key, value) :: cache.toList) := by
  obtain ⟨answer, _, list⟩ := insert_matches wellFormed key value
  have left : (cache.insert key value).2.toList = (cache.toRecency.insert key value).2.entries :=
    congrArg Recency.entries list
  rw [answer, left]
  exact wellFormed.proper.insert_perm key value

/-- An insertion displaces an entry that was there, and only that one is lost. -/
theorem insert_contents (wellFormed : WellFormed cache) (key : κ) (value : α) :
    (∀ entry, (cache.insert key value).1.displaced key = some entry → entry ∈ cache.toList) ∧
      ∀ entry, entry ∈ (cache.insert key value).2.toList ↔
        entry = (key, value) ∨
          entry ∈ cache.toList ∧ (cache.insert key value).1.displaced key ≠ some entry := by
  -- The plain list answers the same and has the same entries left.
  obtain ⟨answer, _, list⟩ := insert_matches wellFormed key value
  have left : (cache.insert key value).2.toList = (cache.toRecency.insert key value).2.entries :=
    congrArg Recency.entries list
  rw [answer, left]
  exact ⟨fun entry => wellFormed.proper.displaced_mem, fun entry => wellFormed.proper.mem_insert⟩

/-- Looking a key up leaves as many entries. -/
theorem size_get (wellFormed : WellFormed cache) (key : κ) :
    (cache.get key).2.size = cache.size := by
  have left := (get_matches wellFormed key).wellFormed
  rw [size, size, ← left.length_toList, ← wellFormed.length_toList]
  exact (get_perm wellFormed key).length_eq

/-- A new entry makes one more, but for the displaced one. -/
theorem size_insert (wellFormed : WellFormed cache) (key : κ) (value : α) :
    (cache.insert key value).2.size + ((cache.insert key value).1.displaced key).toList.length =
      cache.size + 1 := by
  -- Both sizes are lengths of lists, and the two lists with what goes between them are permuted.
  have left := (insert_matches wellFormed key value).wellFormed
  rw [size, size, ← left.length_toList, ← wellFormed.length_toList, Nat.add_comm,
    ← List.length_append]
  exact (insert_perm wellFormed key value).length_eq

end Lru

end PackGate.Cache
