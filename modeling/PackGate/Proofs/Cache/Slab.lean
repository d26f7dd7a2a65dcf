import Mathlib.Data.List.Basic
import PackGate.Proofs.Cache.Chain

/-! A slab of entries under its table of keys: filling slots, emptying them, and reading a chain. -/

namespace PackGate.Cache

variable {κ α : Type}

/-- The entries met along a chain of slots. -/
def along (entries : Array (κ × α)) (chain : List Nat) : List (κ × α) :=
  chain.filterMap fun slot => entries[slot]?

/-- Reading two chains one after the other reads them joined. -/
theorem along_append (entries : Array (κ × α)) (front back : List Nat) :
    along entries (front ++ back) = along entries front ++ along entries back :=
  List.filterMap_append

/-- A chain through an occupied slot shows that slot's entry. -/
theorem along_middle {entries : Array (κ × α)} {front back : List Nat} {slot : Nat} {entry : κ × α}
    (found : entries[slot]? = some entry) :
    along entries (front ++ slot :: back) = along entries front ++ entry :: along entries back := by
  -- The two parts are read apart, and the slot between them shows its entry.
  rw [along_append]
  simp [along, found]

/-- A chain that begins with an occupied slot shows that slot's entry first. -/
theorem along_cons {entries : Array (κ × α)} {rest : List Nat} {slot : Nat} {entry : κ × α}
    (found : entries[slot]? = some entry) :
    along entries (slot :: rest) = entry :: along entries rest := by
  simp [along, found]

/-- What is read along a chain depends on the slots of the chain alone. -/
theorem along_congr {before after : Array (κ × α)} {chain : List Nat}
    (same : ∀ slot ∈ chain, after[slot]? = before[slot]?) :
    along after chain = along before chain :=
  List.filterMap_congr same

/-- An entry is read along a chain exactly if some slot of the chain holds it. -/
theorem mem_along {entries : Array (κ × α)} {chain : List Nat} {entry : κ × α} :
    entry ∈ along entries chain ↔ ∃ slot ∈ chain, entries[slot]? = some entry :=
  List.mem_filterMap

/-- A chain that goes through a refilled slot in place of the last one reads the same entries. -/
theorem along_move {entries : Array (κ × α)} {front back : List Nat} {slot : Nat} {entry : κ × α}
    (last : entries[entries.size - 1]? = some entry)
    (within : ∀ other ∈ front ++ back, other < entries.size - 1)
    (free : slot ∉ front ++ back) (inside : slot < entries.size - 1) :
    along (entries.setIfInBounds slot entry).pop (front ++ slot :: back) =
      along entries (front ++ (entries.size - 1) :: back) := by
  -- The slot is refilled with the last entry, which stays although the last slot goes.
  have filled : (entries.setIfInBounds slot entry).pop[slot]? = some entry := by
    simp [inside]
  -- Every other slot of the chain is kept, and nothing is written to it.
  have kept : ∀ other ∈ front ++ back,
      (entries.setIfInBounds slot entry).pop[other]? = entries[other]? := by
    intro other member
    have apart : slot ≠ other := fun same => free (same ▸ member)
    simp only [Array.getElem?_pop, Array.size_setIfInBounds, if_pos (within other member),
      Array.getElem?_setIfInBounds_ne apart]
  -- So both chains read the same entries on both sides of the moved one.
  rw [along_middle filled, along_middle last,
    along_congr fun other member => kept other (by simp [member]),
    along_congr fun other member => kept other (by simp [member])]

section Table

variable [BEq κ] [Hashable κ]

/-- A table names the slot of every key and no other. -/
def Indexed (slots : Std.HashMap κ Nat) (entries : Array (κ × α)) : Prop :=
  ∀ (key : κ) (slot : Nat), slots[key]? = some slot ↔ ∃ value, entries[slot]? = some (key, value)

variable {slots : Std.HashMap κ Nat} {entries : Array (κ × α)}

/-- Two slots that hold one key are the same slot. -/
theorem Indexed.unique (indexed : Indexed slots entries) {first second : Nat} {key : κ}
    {value other : α} (one : entries[first]? = some (key, value))
    (two : entries[second]? = some (key, other)) : first = second := by
  -- The table has one slot for a key, and both slots are it.
  have named := (indexed key first).mpr ⟨value, one⟩
  rw [(indexed key second).mpr ⟨other, two⟩] at named
  exact (Option.some.inj named).symm

/-- Giving a key another value changes no slot. -/
theorem Indexed.set (indexed : Indexed slots entries) {slot : Nat} {key : κ} {old : α} (value : α)
    (found : entries[slot]? = some (key, old)) (occupied : slot < entries.size) :
    Indexed slots (entries.set slot (key, value)) := by
  -- The key stays in its slot, so the table has the same to say about every slot.
  intro other position
  rw [indexed other position, Array.getElem?_set]
  by_cases here : slot = position
  · subst here
    simp [found]
  · simp [here]

variable [LawfulBEq κ]

/-- Filling the next slot under a new key enters the key. -/
theorem Indexed.push (indexed : Indexed slots entries) {key : κ} (value : α)
    (absent : slots[key]? = none) :
    Indexed (slots.insert key entries.size) (entries.push (key, value)) := by
  intro other slot
  rw [Std.HashMap.getElem?_insert, Array.getElem?_push]
  -- The new key was nowhere before, and every other key is where it was.
  by_cases same : key = other
  · subst same
    have unused : ∀ value, entries[slot]? ≠ some (key, value) := by
      intro value found
      simp [(indexed key slot).mpr ⟨value, found⟩] at absent
    by_cases last : slot = entries.size <;> simp [last, unused, eq_comm]
  · rw [if_neg (by simpa using same), indexed other slot]
    by_cases last : slot = entries.size <;> simp [last, same]

/-- Emptying the last slot takes its key out of the table. -/
theorem Indexed.pop (indexed : Indexed slots entries) {key : κ} {value : α}
    (found : entries[entries.size - 1]? = some (key, value)) :
    Indexed (slots.erase key) entries.pop := by
  intro other slot
  rw [Std.HashMap.getElem?_erase, Array.getElem?_pop]
  -- The erased key is to be nowhere, and every other key where it was.
  by_cases same : key = other
  · subst same
    rw [if_pos (by simp)]
    by_cases inside : slot < entries.size - 1
    · -- Only the last slot held the key.
      have unheld : ∀ value, entries[slot]? ≠ some (key, value) := by
        intro value held
        have := indexed.unique held found
        omega
      simp [unheld]
    · simp [inside]
  · rw [if_neg (by simpa using same), indexed other slot]
    by_cases inside : slot < entries.size - 1
    · simp [inside]
    · -- A slot that is not kept is the last one, under another key, or none at all.
      have outside : ∀ value, entries[slot]? ≠ some (other, value) := by
        intro value here
        have bound := (Array.getElem?_eq_some_iff.mp here).1
        have last : slot = entries.size - 1 := by omega
        subst last
        simp [found, same] at here
      simp [inside, outside]

/-- Moving the last entry into a slot takes the slot's old key out of the table. -/
theorem Indexed.move (indexed : Indexed slots entries) {slot : Nat} {key lastKey : κ}
    {value lastValue : α} (found : entries[slot]? = some (key, value))
    (last : entries[entries.size - 1]? = some (lastKey, lastValue))
    (inside : slot < entries.size - 1) :
    Indexed ((slots.erase key).insert lastKey slot)
      (entries.setIfInBounds slot (lastKey, lastValue)).pop := by
  have occupied : slot < entries.size := by omega
  -- The entry that is moved has another key, since a key is held by one slot only.
  have apart : key ≠ lastKey := by
    intro same
    subst same
    have := indexed.unique found last
    omega
  intro other position
  rw [Std.HashMap.getElem?_insert, Std.HashMap.getElem?_erase, Array.getElem?_pop,
    Array.size_setIfInBounds, Array.getElem?_setIfInBounds]
  -- Either the refilled slot is asked for, or one that was not written to.
  by_cases here : slot = position
  · -- The refilled slot holds the moved key and no other.
    subst here
    by_cases same : lastKey = other
    · simp [same, inside, occupied]
    · have stale : slots[other]? = some slot → key = other := by
        intro named
        obtain ⟨_, held⟩ := (indexed other slot).mp named
        rw [found] at held
        exact congrArg Prod.fst (Option.some.inj held)
      by_cases old : key = other
      · simp [same, old, inside, occupied]
      · have unnamed : slots[other]? ≠ some slot := fun named => old (stale named)
        simp [same, old, inside, occupied, unnamed]
  · -- Any other slot keeps its key, unless it was the last one.
    by_cases same : lastKey = other
    · subst same
      by_cases kept : position < entries.size - 1
      · have unheld : ∀ value, entries[position]? ≠ some (lastKey, value) := by
          intro value held
          have := indexed.unique held last
          omega
        simp [here, unheld]
      · simp [here, kept]
    · -- The key that was removed was held by the refilled slot alone.
      by_cases old : key = other
      · subst old
        have unheld : ∀ value, entries[position]? ≠ some (key, value) :=
          fun value held => here (indexed.unique found held)
        simp [same, here, unheld]
      · rw [if_neg (by simpa using same), if_neg (by simpa using old), indexed other position]
        by_cases kept : position < entries.size - 1
        · simp [kept, here]
        · -- A slot that is not kept is the last one, whose key has moved, or none at all.
          have outside : ∀ value, entries[position]? ≠ some (other, value) := by
            intro value held
            have bound := (Array.getElem?_eq_some_iff.mp held).1
            have final : position = entries.size - 1 := by omega
            subst final
            simp [last, same] at held
          simp [kept, outside]

end Table

end PackGate.Cache
