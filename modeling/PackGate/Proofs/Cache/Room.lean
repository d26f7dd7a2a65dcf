import PackGate.Cache.Lru

/-! For how many entries there is room in the address space. -/

namespace PackGate.Cache

/-- The power is the least one: it is below another power whenever the number is. -/
theorem powerOfTwoFrom_le_iff {number power : Nat} :
    powerOfTwoFrom number ≤ Nat.pow 2 power ↔ number ≤ Nat.pow 2 power := by
  have positive : 0 < Nat.pow 2 power := Nat.two_pow_pos power
  unfold powerOfTwoFrom
  split
  · -- One bucket is no more than any power, whatever its exponent.
    omega
  · -- The exponent of the least power is one more than the logarithm of what comes before.
    rename_i several
    have below : Nat.log2 (number - 1) < power ↔ number - 1 < Nat.pow 2 power :=
      Nat.log2_lt (by omega)
    have powers : Nat.pow 2 (Nat.log2 (number - 1) + 1) ≤ Nat.pow 2 power ↔
        Nat.log2 (number - 1) + 1 ≤ power := Nat.pow_le_pow_iff_right (by decide)
    rw [powers, Nat.add_one_le_iff, below]
    omega

/-- The least power of two above a number is a power of two. -/
theorem exists_powerOfTwoFrom (number : Nat) :
    ∃ power, powerOfTwoFrom number = Nat.pow 2 power := by
  unfold powerOfTwoFrom
  split
  · exact ⟨0, rfl⟩
  · exact ⟨_, rfl⟩

/-- A table has more buckets than keys. -/
theorem lt_bucketsFor (capacity : Nat) : capacity < bucketsFor capacity := by
  unfold bucketsFor
  split
  · assumption
  split
  · assumption
  · -- A power that is not below the eight sevenths is above the number itself.
    rename_i several
    obtain ⟨power, same⟩ := exists_powerOfTwoFrom (capacity * 8 / 7)
    have enough : capacity * 8 / 7 ≤ Nat.pow 2 power :=
      powerOfTwoFrom_le_iff.mp (Nat.le_of_eq same)
    rw [same]
    omega

/-- The buckets for a capacity are within a power if eight sevenths of the capacity are. -/
theorem bucketsFor_le_iff {capacity power : Nat} (some : 3 ≤ power) :
    bucketsFor capacity ≤ Nat.pow 2 power ↔ capacity * 8 / 7 ≤ Nat.pow 2 power := by
  have eight : Nat.pow 2 3 ≤ Nat.pow 2 power := Nat.pow_le_pow_right (by decide) some
  have known : Nat.pow 2 3 = 8 := rfl
  unfold bucketsFor
  -- The tables for few keys are within every power in question.
  split
  · omega
  split
  · omega
  · exact powerOfTwoFrom_le_iff

/-- The number of buckets is a power of two. -/
theorem exists_bucketsFor (capacity : Nat) : ∃ power, bucketsFor capacity = Nat.pow 2 power := by
  unfold bucketsFor
  split
  · exact ⟨2, rfl⟩
  split
  · exact ⟨3, rfl⟩
  · exact exists_powerOfTwoFrom _

/-- The greatest capacity with buckets of 32 bytes: seven keys for eight of 2 to the 57 buckets. -/
def maxCapacity : Nat :=
  7 * Nat.pow 2 54

/-- A table with buckets of 32 bytes fits the address space up to the greatest capacity. -/
theorem tableBytes_le_iff {capacity : Nat} :
    tableBytes 32 capacity ≤ maxAllocation - 15 ↔ capacity ≤ maxCapacity := by
  -- With 33 bytes for a bucket there is room for 2 to the 57 buckets, and not for twice as many.
  have fits : bucketsFor capacity ≤ Nat.pow 2 57 ↔ capacity * 8 / 7 ≤ Nat.pow 2 57 :=
    bucketsFor_le_iff (by decide)
  obtain ⟨power, same⟩ := exists_bucketsFor capacity
  have limit : maxAllocation = 9223372036854775807 := by decide
  have greatest : maxCapacity = 126100789566373888 := by decide
  have buckets : Nat.pow 2 57 = 144115188075855872 := by decide
  have twice : Nat.pow 2 58 = 288230376151711744 := by decide
  simp only [tableBytes, limit]
  rw [same] at fits ⊢
  by_cases small : power ≤ 57
  · -- The buckets fit, and so does the number that they were taken from.
    have bound : Nat.pow 2 power ≤ Nat.pow 2 57 := Nat.pow_le_pow_right (by decide) small
    have room := fits.mp bound
    omega
  · -- The next power is beyond the limit, even without the bytes after the buckets.
    have bound : Nat.pow 2 58 ≤ Nat.pow 2 power := Nat.pow_le_pow_right (by decide) (by omega)
    have crowded : ¬Nat.pow 2 power ≤ Nat.pow 2 57 := by omega
    rw [fits] at crowded
    omega

/-- A cache that was created is empty and has the capacity asked for, which passed every check. -/
theorem Lru.create_made {κ α : Type} [BEq κ] [Hashable κ] {layout : Layout} {capacity : Nat}
    {cache : Lru κ α} (created : create layout capacity = .ok cache) :
    cache = { slots := ∅, nodes := #[], newest := none, oldest := none, capacity } ∧
      0 < capacity ∧ tableBytes layout.bucket capacity ≤ maxAllocation - 15 := by
  unfold create at created
  split at created
  · cases created
  split at created
  · cases created
  split at created
  · cases created
  rename_i nonzero fits _
  cases created
  exact ⟨rfl, Nat.pos_of_ne_zero nonzero, Nat.not_lt.mp fits⟩

/-- A cache that was created has fewer entries than the address space has bytes. -/
theorem Lru.capacity_lt_of_create {κ α : Type} [BEq κ] [Hashable κ] {layout : Layout}
    {capacity : Nat} {cache : Lru κ α} (created : create layout capacity = .ok cache) :
    capacity < maxAllocation := by
  -- Every bucket takes one byte at least, and there are more buckets than entries.
  have fits := (create_made created).2.2
  have more := lt_bucketsFor capacity
  unfold tableBytes at fits
  dsimp only at fits
  omega

end PackGate.Cache
