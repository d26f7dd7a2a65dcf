import PackGate.Cache.Recency
import PackGate.Proofs.Cache.Stored

/-! Every operation on linked slots stays inside the slab and does what the plain list does. -/

namespace PackGate.Cache

variable {κ α : Type}

/-! ## The plain list -/

namespace Recency

variable [BEq κ] [LawfulBEq κ]

/-- A key that only the middle entry has is found there. -/
theorem lookup_middle {front back : List (κ × α)} {key : κ} (value : α)
    (fresh : ∀ entry ∈ front, entry.1 ≠ key) :
    (front ++ (key, value) :: back).lookup key = some value := by
  -- Looking up takes the first entry of the key, and none in front has it.
  rw [List.lookup_eq_some_iff]
  refine ⟨front, back, rfl, fun entry member => ?_⟩
  simpa using (fresh entry member).symm

/-- A key that no entry has is not found. -/
theorem lookup_absent {entries : List (κ × α)} {key : κ}
    (absent : ∀ entry ∈ entries, entry.1 ≠ key) : entries.lookup key = none := by
  rw [List.lookup_eq_none_iff]
  intro entry member
  simpa using (absent entry member).symm

/-- Leaving a key out that no entry has changes nothing. -/
theorem without_absent {entries : List (κ × α)} {key : κ}
    (absent : ∀ entry ∈ entries, entry.1 ≠ key) : without entries key = entries := by
  rw [without, List.filter_eq_self]
  intro entry member
  simpa using absent entry member

/-- Leaving out a key that only the middle entry has joins the two parts around it. -/
theorem without_middle {front back : List (κ × α)} {key : κ} (value : α)
    (fresh : ∀ entry ∈ front ++ back, entry.1 ≠ key) :
    without (front ++ (key, value) :: back) key = front ++ back := by
  -- The middle entry is filtered out, and no other one has the key.
  have outside : without (front ++ back) key = front ++ back := without_absent fresh
  simpa [without] using outside

end Recency

/-! ## The cache as a list -/

namespace Lru

variable [BEq κ] [Hashable κ]

/-- A cache whose chain, slab and table agree and that is not over its capacity. -/
structure WellFormed (cache : Lru κ α) : Prop where
  /-- The entries are stored along some chain. -/
  stored : ∃ chain, Stores cache chain
  /-- There are no more entries than the capacity allows. -/
  bounded : cache.nodes.size ≤ cache.capacity
  /-- There is room for an entry. -/
  positive : 0 < cache.capacity

/-- The entries of a cache as one list, the newest first. -/
def toRecency (cache : Lru κ α) : Recency κ α :=
  ⟨cache.toList, cache.capacity⟩

/-- A well-formed cache lists as many entries as it counts. -/
theorem WellFormed.length_toList {cache : Lru κ α} (wellFormed : WellFormed cache) :
    cache.toList.length = cache.nodes.size := by
  -- The chain meets every slot once, so the list is as long as the slab.
  obtain ⟨chain, stores⟩ := wellFormed.stored
  exact stores.length_toList

/-- The slot of a key splits the chain, and no other entry of the chain has the key. -/
theorem Stores.locate {cache : Lru κ α} {chain : List Nat} {key : κ} {slot : Nat}
    (stores : Stores cache chain) (named : cache.slots[key]? = some slot) :
    ∃ front back value, chain = front ++ slot :: back ∧ cache.entries[slot]? = some (key, value) ∧
      ∀ entry ∈ along cache.entries front ++ along cache.entries back, entry.1 ≠ key := by
  -- The table's slot holds the key, and the chain meets every slot of the slab.
  obtain ⟨value, found⟩ := (stores.indexed key slot).mp named
  have occupied := (Array.getElem?_eq_some_iff.mp found).1
  obtain ⟨front, back, cut⟩ := List.append_of_mem (stores.covers slot (by simpa using occupied))
  refine ⟨front, back, value, cut, found, ?_⟩
  intro entry member same
  rw [← along_append, mem_along] at member
  obtain ⟨other, within, held⟩ := member
  obtain ⟨otherKey, otherValue⟩ := entry
  subst same
  -- Another slot with this key would be the slot itself, which the chain meets only once.
  have equal := stores.indexed.unique held found
  have distinct := stores.distinct
  rw [cut, List.perm_middle.nodup_iff] at distinct
  exact (List.nodup_cons.mp distinct).1 (equal ▸ within)

/-- No listed entry has a key that the table does not know. -/
theorem Stores.absent {cache : Lru κ α} {chain : List Nat} {key : κ}
    (stores : Stores cache chain) (unnamed : cache.slots[key]? = none) :
    ∀ entry ∈ cache.toList, entry.1 ≠ key := by
  intro entry member same
  -- A listed entry is in some slot, which the table would name for its key.
  rw [stores.toList_eq, mem_along] at member
  obtain ⟨slot, _, held⟩ := member
  subst same
  rw [(stores.indexed entry.1 slot).mpr ⟨entry.2, held⟩] at unnamed
  cases unnamed

/-- What an operation answers and leaves behind is what the plain list answers and leaves behind. -/
structure Matches {β : Type} (done : β × Lru κ α) (expected : β × Recency κ α) : Prop where
  /-- The answers are equal. -/
  answer : done.1 = expected.1
  /-- The cache that is left is well formed. -/
  wellFormed : WellFormed done.2
  /-- The cache that is left lists what is left of the plain list. -/
  list : done.2.toRecency = expected.2

/-- An operation that is checked is never led outside the slab and matches the plain list. -/
def Succeeds {β : Type} (checked : Option (β × Lru κ α)) (expected : β × Recency κ α) : Prop :=
  ∃ done, checked = some done ∧ Matches done expected

/-- A promoted slot leads the list, before the others in their order. -/
theorem promote_spec {cache : Lru κ α} {front back : List Nat} {slot : Nat} {key : κ} {value : α}
    (wellFormed : WellFormed cache) (stores : Stores cache (front ++ slot :: back))
    (found : cache.entries[slot]? = some (key, value)) :
    ∃ promoted, cache.promote? slot = some promoted ∧ WellFormed promoted ∧
      promoted.entries = cache.entries ∧ promoted.toRecency =
        ⟨(key, value) :: (along cache.entries front ++ along cache.entries back),
          cache.capacity⟩ := by
  -- Relinking moves the slot within the chain and leaves the slab as it is.
  obtain ⟨promoted, done, same, strung⟩ := promote?_spec stores.toStrung
  have entries : promoted.entries = cache.entries := same.entries
  have stored : Stores promoted (slot :: (front ++ back)) :=
    stores.relink same strung fun other member => by simpa [or_left_comm] using member
  refine ⟨promoted, done, ⟨⟨_, stored⟩, ?_, ?_⟩, entries, ?_⟩
  · rw [same.size, same.capacity]
    exact wellFormed.bounded
  · rw [same.capacity]
    exact wellFormed.positive
  · rw [toRecency, stored.toList_eq, same.capacity, entries, ← along_append]
    exact congrArg (Recency.mk · _) (along_cons found)

/-! ## Single operations -/

variable {cache : Lru κ α}

/-- The oldest slot ends the chain and holds the last entry of the list. -/
theorem WellFormed.oldest (wellFormed : WellFormed cache) {slot : Nat}
    (ending : cache.oldest = some slot) :
    ∃ front entry, Stores cache (front ++ [slot]) ∧ cache.entries[slot]? = some entry ∧
      cache.toList = along cache.entries front ++ [entry] := by
  -- The oldest slot is where the chain ends.
  obtain ⟨chain, stores⟩ := wellFormed.stored
  rw [stores.oldest, List.getLast?_eq_some_iff] at ending
  obtain ⟨front, rfl⟩ := ending
  have occupied : slot < cache.entries.size := by
    rw [size_entries]
    exact stores.slot_lt (by simp)
  have found := Array.getElem?_eq_getElem occupied
  exact ⟨front, _, stores, found, by rw [stores.toList_eq, along_middle found]; rfl⟩

/-- A cache without an oldest entry lists nothing. -/
theorem WellFormed.toList_eq_nil (wellFormed : WellFormed cache) (ending : cache.oldest = none) :
    cache.toList = [] := by
  -- A chain without an end is empty.
  obtain ⟨chain, stores⟩ := wellFormed.stored
  rw [stores.oldest, List.getLast?_eq_none_iff] at ending
  rw [stores.toList_eq, ending]
  rfl

/-- Reading the oldest entry reads the end of the plain list. -/
theorem peekOldestChecked_eq (wellFormed : WellFormed cache) :
    cache.peekOldestChecked = some cache.toRecency.peekOldest := by
  -- The oldest slot is read where it is, or there is none.
  cases ending : cache.oldest with
  | none =>
    simp [peekOldestChecked, ending, Recency.peekOldest, toRecency,
      wellFormed.toList_eq_nil ending]
  | some slot =>
    obtain ⟨front, entry, _, found, list⟩ := wellFormed.oldest ending
    obtain ⟨node, here, same⟩ := node_of_entries found
    have read : (node.key, node.value) = entry := same
    simp [peekOldestChecked, ending, here, read, Recency.peekOldest, toRecency, list]

/-- Giving a stored key another value keeps the chain and the table. -/
theorem replace_spec (wellFormed : WellFormed cache) {front back : List Nat} {slot : Nat} {key : κ}
    {old : α} (stores : Stores cache (front ++ slot :: back))
    (found : cache.entries[slot]? = some (key, old)) (value : α) :
    ∃ replaced, (cache.updateNode? slot fun node => { node with value }) = some replaced ∧
      WellFormed replaced ∧ Stores replaced (front ++ slot :: back) ∧
      replaced.capacity = cache.capacity ∧ replaced.entries[slot]? = some (key, value) ∧
      along replaced.entries front = along cache.entries front ∧
      along replaced.entries back = along cache.entries back := by
  have occupied : slot < cache.nodes.size := stores.slot_lt (by simp)
  have inside : slot < cache.entries.size := by simpa using occupied
  refine ⟨_, dif_pos occupied, ?_⟩
  -- What is proved does not depend on how the update is written, only on the nodes it leaves.
  generalize changed : { cache with nodes := cache.nodes.set slot _ } = replaced
  have nodes : replaced.nodes = cache.nodes.set slot { cache.nodes[slot] with value } := by
    rw [← changed]
  -- The node that is changed holds the key already, so its entry changes in the value alone.
  have known : cache.nodes[slot].key = key := by
    have here : cache.entries[slot]? = some cache.nodes[slot].entry :=
      entries_of_node (Array.getElem?_eq_getElem occupied)
    rw [found] at here
    exact (congrArg Prod.fst (Option.some.inj here)).symm
  have entries : replaced.entries = cache.entries.set slot (key, value) inside := by
    simp [Lru.entries, nodes, Node.entry, known]
  -- The chain meets the slot once, so the other slots of the chain are other slots.
  have apart : ∀ other ∈ front ++ back, slot ≠ other := by
    intro other member same
    have distinct := List.perm_middle.nodup_iff.mp stores.distinct
    exact (List.nodup_cons.mp distinct).1 (same ▸ member)
  have stored : Stores replaced (front ++ slot :: back) := by
    refine ⟨⟨stores.distinct, ?_, ?_, ?_⟩, ?_, ?_⟩
    · -- The links are those of before, in the changed slot as well.
      intro before other after cut
      obtain ⟨node, here, newer, older⟩ := stores.chained before other after cut
      rw [nodes, Array.getElem?_set]
      by_cases same : slot = other
      · subst same
        have read : cache.nodes[slot] = node := by
          rw [Array.getElem?_eq_getElem occupied] at here
          exact Option.some.inj here
        exact ⟨_, if_pos rfl, by rw [read]; exact newer, by rw [read]; exact older⟩
      · exact ⟨node, by rw [if_neg same]; exact here, newer, older⟩
    · rw [← changed]
      exact stores.newest
    · rw [← changed]
      exact stores.oldest
    · -- The slab is as large as before, and the chain is the same.
      intro other within
      exact stores.covers other (by simpa [nodes] using within)
    · -- The key stays in its slot, so the table still names it.
      rw [entries, ← changed]
      exact stores.indexed.set value found inside
  have size : replaced.nodes.size = cache.nodes.size := by simp [nodes]
  have capacity : replaced.capacity = cache.capacity := by rw [← changed]
  refine ⟨⟨⟨_, stored⟩, ?_, ?_⟩, stored, capacity, by simp [entries], ?_, ?_⟩
  · rw [size, capacity]
    exact wellFormed.bounded
  · rw [capacity]
    exact wellFormed.positive
  -- The slots on either side of the changed one are not written to.
  all_goals
    rw [entries]
    refine along_congr fun other member => Array.getElem?_set_ne inside (apart other ?_)
    simp [member]

variable [LawfulBEq κ]

/-- A key that the table does not know is not in the list. -/
theorem WellFormed.peek_absent (wellFormed : WellFormed cache) {key : κ}
    (unnamed : cache.slots[key]? = none) : cache.toRecency.peek key = none := by
  obtain ⟨chain, stores⟩ := wellFormed.stored
  exact Recency.lookup_absent (stores.absent unnamed)

/-- The entry of a key that the table knows splits the list. -/
theorem WellFormed.locate (wellFormed : WellFormed cache) {key : κ} {slot : Nat}
    (named : cache.slots[key]? = some slot) :
    ∃ front back value, Stores cache (front ++ slot :: back) ∧
      cache.entries[slot]? = some (key, value) ∧
      cache.toRecency.peek key = some value ∧
      Recency.without cache.toList key =
        along cache.entries front ++ along cache.entries back := by
  -- The chain is split at the slot, and its entries with it.
  obtain ⟨chain, stores⟩ := wellFormed.stored
  obtain ⟨front, back, value, cut, found, fresh⟩ := stores.locate named
  subst cut
  have list : cache.toList =
      along cache.entries front ++ (key, value) :: along cache.entries back := by
    rw [stores.toList_eq, along_middle found]
  refine ⟨front, back, value, stores, found, ?_, ?_⟩
  · show cache.toList.lookup key = some value
    rw [list]
    exact Recency.lookup_middle value fun entry member => fresh entry (by simp [member])
  · rw [list]
    exact Recency.without_middle value fresh

/-- Looking a key up and promoting it matches the plain list. -/
theorem getChecked_succeeds (wellFormed : WellFormed cache) (key : κ) :
    Succeeds (cache.getChecked key) (cache.toRecency.get key) := by
  -- The table says whether the key is there, and the list agrees.
  cases named : cache.slots[key]? with
  | none =>
    refine ⟨(none, cache), by simp [getChecked, named], ?_⟩
    rw [Recency.get, wellFormed.peek_absent named]
    exact ⟨rfl, wellFormed, rfl⟩
  | some slot =>
    obtain ⟨front, back, value, stores, found, peeked, others⟩ := wellFormed.locate named
    obtain ⟨promoted, done, kept, entries, list⟩ := promote_spec wellFormed stores found
    -- Promoting moves no entry to another slot, so the value is still in this one.
    have held : promoted.entries[slot]? = some (key, value) := by rw [entries]; exact found
    obtain ⟨node, here, same⟩ := node_of_entries held
    refine ⟨(some value, promoted), ?_, ?_⟩
    · have read : node.value = value := congrArg Prod.snd same
      simp [getChecked, named, done, here, read]
    · rw [Recency.get, peeked]
      exact ⟨rfl, kept, by rw [list, ← others]; rfl⟩

/-- Asking for a key and promoting it matches the plain list. -/
theorem containsChecked_succeeds (wellFormed : WellFormed cache) (key : κ) :
    Succeeds (cache.containsChecked key) (cache.toRecency.contains key) := by
  cases named : cache.slots[key]? with
  | none =>
    refine ⟨(false, cache), by simp [containsChecked, named], ?_⟩
    rw [Recency.contains, Recency.get, wellFormed.peek_absent named]
    exact ⟨rfl, wellFormed, rfl⟩
  | some slot =>
    obtain ⟨front, back, value, stores, found, peeked, others⟩ := wellFormed.locate named
    obtain ⟨promoted, done, kept, _, list⟩ := promote_spec wellFormed stores found
    refine ⟨(true, promoted), by simp [containsChecked, named, done], ?_⟩
    rw [Recency.contains, Recency.get, peeked]
    exact ⟨rfl, kept, by rw [list, ← others]; rfl⟩

/-- Looking a key up in place reads what the plain list reads. -/
theorem peekChecked_eq (wellFormed : WellFormed cache) (key : κ) :
    cache.peekChecked key = some (cache.toRecency.peek key) := by
  cases named : cache.slots[key]? with
  | none => simp [peekChecked, named, wellFormed.peek_absent named]
  | some slot =>
    obtain ⟨front, back, value, stores, found, peeked, _⟩ := wellFormed.locate named
    obtain ⟨node, here, same⟩ := node_of_entries found
    have read : node.value = value := congrArg Prod.snd same
    simp [peekChecked, named, here, read, peeked]

/-- The table knows exactly the keys of the list. -/
theorem peekContains_eq (wellFormed : WellFormed cache) (key : κ) :
    cache.peekContains key = cache.toRecency.peekContains key := by
  rw [peekContains, Std.HashMap.contains_eq_isSome_getElem?]
  cases named : cache.slots[key]? with
  | none => simp [Recency.peekContains, wellFormed.peek_absent named]
  | some slot =>
    obtain ⟨front, back, value, _, _, peeked, _⟩ := wellFormed.locate named
    simp [Recency.peekContains, peeked]

/-- A slot that is emptied leaves the list of the others. -/
theorem removeAt_spec (wellFormed : WellFormed cache) {front back : List Nat} {slot : Nat}
    {entry : κ × α} (stores : Stores cache (front ++ slot :: back))
    (found : cache.entries[slot]? = some entry) :
    ∃ rest, cache.removeAt? slot = some (entry, rest) ∧ WellFormed rest ∧ rest.toRecency =
      ⟨along cache.entries front ++ along cache.entries back, cache.capacity⟩ := by
  -- The slab and the chain without the slot are known already; what is left is the list.
  obtain ⟨rest, chain, done, stored, capacity, read⟩ := removeAt?_spec stores found
  have list : rest.toList = along cache.entries front ++ along cache.entries back := by
    rw [stored.toList_eq, read, along_append]
  refine ⟨rest, done, ⟨⟨chain, stored⟩, ?_, ?_⟩, by rw [toRecency, list, capacity]⟩
  · -- One entry fewer is listed than before.
    have before : cache.nodes.size =
        (along cache.entries front ++ entry :: along cache.entries back).length := by
      rw [← along_middle found, ← stores.toList_eq, wellFormed.length_toList]
    have after : rest.nodes.size = rest.toList.length := stored.length_toList.symm
    have bounded := wellFormed.bounded
    rw [list] at after
    simp only [List.length_append, List.length_cons] at before after
    omega
  · rw [capacity]
    exact wellFormed.positive

/-- Removing a key matches the plain list. -/
theorem removeChecked_succeeds (wellFormed : WellFormed cache) (key : κ) :
    Succeeds (cache.removeChecked key) (cache.toRecency.remove key) := by
  -- A key that the table knows is removed from its slot, any other from nowhere.
  cases named : cache.slots[key]? with
  | none =>
    refine ⟨(none, cache), by simp [removeChecked, named], ?_⟩
    rw [Recency.remove, wellFormed.peek_absent named]
    exact ⟨rfl, wellFormed, rfl⟩
  | some slot =>
    obtain ⟨front, back, value, stores, found, peeked, others⟩ := wellFormed.locate named
    obtain ⟨rest, done, kept, list⟩ := removeAt_spec wellFormed stores found
    refine ⟨(some value, rest), by simp [removeChecked, named, done], ?_⟩
    rw [Recency.remove, peeked]
    exact ⟨rfl, kept, by rw [list, ← others]; rfl⟩

/-- Removing the oldest entry matches the plain list. -/
theorem popChecked_succeeds (wellFormed : WellFormed cache) :
    Succeeds cache.popChecked cache.toRecency.pop := by
  -- The slot that ends the chain is emptied, or there is none.
  cases ending : cache.oldest with
  | none =>
    refine ⟨(none, cache), by simp [popChecked, ending], ?_, wellFormed, ?_⟩ <;>
      simp [Recency.pop, toRecency, wellFormed.toList_eq_nil ending]
  | some slot =>
    obtain ⟨front, entry, stores, found, list⟩ := wellFormed.oldest ending
    obtain ⟨rest, done, kept, left⟩ := removeAt_spec wellFormed stores found
    refine ⟨(some entry, rest), by simp [popChecked, ending, done], ?_, kept, ?_⟩
    · simp [Recency.pop, toRecency, list]
    · rw [left]
      simp [Recency.pop, toRecency, list, along]

/-- A key that the list lacks is unknown to the table. -/
theorem WellFormed.slots_eq_none (wellFormed : WellFormed cache) {key : κ}
    -- A slot that the table names would put the key on the list.
    (absent : cache.toRecency.peek key = none) : cache.slots[key]? = none := by
  cases named : cache.slots[key]? with
  | none => rfl
  | some slot =>
    obtain ⟨_, _, _, _, _, peeked, _⟩ := wellFormed.locate named
    rw [absent] at peeked
    cases peeked

/-- A new key goes to a new slot in front of the list, if there is room. -/
theorem enter_spec (wellFormed : WellFormed cache) (room : cache.nodes.size < cache.capacity)
    {key : κ} (value : α) (unnamed : cache.slots[key]? = none) :
    let extended := { cache with nodes := cache.nodes.push ⟨key, value, none, none⟩ }
    ∃ attached, extended.attachFront? cache.nodes.size = some attached ∧
      WellFormed { attached with slots := attached.slots.insert key cache.nodes.size } ∧
      toRecency { attached with slots := attached.slots.insert key cache.nodes.size } =
        ⟨(key, value) :: cache.toList, cache.capacity⟩ := by
  intro extended
  obtain ⟨chain, stores⟩ := wellFormed.stored
  -- The new slot is the next one of the slab, which no chain meets yet.
  have free : cache.nodes.size ∉ chain := fun member => Nat.lt_irrefl _ (stores.slot_lt member)
  -- The nodes that were there keep their links until the new slot is attached.
  have strung : Strung extended chain := by
    refine ⟨stores.distinct, ?_, stores.newest, stores.oldest⟩
    intro before slot after cut
    obtain ⟨node, here, links⟩ := stores.chained before slot after cut
    have within : slot < cache.nodes.size := stores.slot_lt (by simp [cut])
    refine ⟨node, ?_, links⟩
    rw [Array.getElem?_push, if_neg (Nat.ne_of_lt within)]
    exact here
  have occupied : cache.nodes.size < extended.nodes.size := by simp [extended]
  obtain ⟨attached, attach, same, linked⟩ := attachFront?_spec strung free occupied
  have entries : attached.entries = cache.entries.push (key, value) := by
    rw [Lru.entries, same.entries]
    simp [extended, Lru.entries, Node.entry]
  have size : attached.nodes.size = cache.nodes.size + 1 := by
    rw [same.size]
    simp [extended]
  have stored : Stores { attached with slots := attached.slots.insert key cache.nodes.size }
      (cache.nodes.size :: chain) := by
    refine ⟨⟨linked.distinct, linked.chained, linked.newest, linked.oldest⟩, ?_, ?_⟩
    · -- The chain meets the new slot first and the others as before.
      intro slot within
      have within : slot < cache.nodes.size + 1 := by rw [← size]; exact within
      rcases Nat.lt_succ_iff_lt_or_eq.mp within with inside | last
      · simp [stores.covers slot inside]
      · simp [last]
    · -- The key enters the table with the slot that it fills.
      show Indexed (attached.slots.insert key cache.nodes.size) attached.entries
      rw [entries, same.slots, ← size_entries]
      exact stores.indexed.push value unnamed
  have capacity : attached.capacity = cache.capacity := same.capacity
  refine ⟨attached, attach, ⟨⟨_, stored⟩, ?_, ?_⟩, ?_⟩
  · show attached.nodes.size ≤ attached.capacity
    rw [size, capacity]
    exact room
  · show 0 < attached.capacity
    rw [capacity]
    exact wellFormed.positive
  · -- The old chain reads the entries that it read before.
    have pushed : along attached.entries chain = along cache.entries chain := by
      refine along_congr fun slot member => ?_
      have within := stores.slot_lt member
      rw [entries, Array.getElem?_push, size_entries, if_neg (Nat.ne_of_lt within)]
    have first : attached.entries[cache.nodes.size]? = some (key, value) := by
      rw [entries, ← size_entries]
      exact Array.getElem?_push_size
    rw [toRecency, stored.toList_eq, stores.toList_eq, ← pushed]
    exact congrArg₂ Recency.mk (along_cons first) capacity

/-- A full cache gives up its last entry and has room for a new key then. -/
theorem makeRoom_spec (wellFormed : WellFormed cache) (full : cache.capacity ≤ cache.nodes.size)
    {key : κ} (unnamed : cache.slots[key]? = none) :
    ∃ entry roomy, cache.popChecked = some (some entry, roomy) ∧ WellFormed roomy ∧
      cache.toList.getLast? = some entry ∧
      roomy.toRecency = ⟨cache.toList.dropLast, cache.capacity⟩ ∧
      roomy.nodes.size < roomy.capacity ∧ roomy.slots[key]? = none := by
  obtain ⟨⟨dropped, roomy⟩, pop, answer, kept, left⟩ := popChecked_succeeds wellFormed
  have positive := wellFormed.positive
  have listed := wellFormed.length_toList
  cases ending : cache.toList.getLast? with
  | none =>
    -- There is an oldest entry, since a full cache is not empty.
    rw [List.getLast?_eq_none_iff] at ending
    rw [ending, List.length_nil] at listed
    omega
  | some entry =>
    have dropped : dropped = some entry := answer.trans ending
    subst dropped
    have rest : roomy.toList = cache.toList.dropLast := congrArg Recency.entries left
    have capacity : roomy.capacity = cache.capacity := congrArg Recency.capacity left
    refine ⟨entry, roomy, pop, kept, rfl, left, ?_, kept.slots_eq_none ?_⟩
    · -- One entry fewer is listed than before.
      have bounded := wellFormed.bounded
      have fewer := congrArg List.length rest
      rw [List.length_dropLast, listed] at fewer
      have counted : roomy.nodes.size = cache.nodes.size - 1 :=
        (WellFormed.length_toList kept).symm.trans fewer
      omega
    · -- What is left was listed before, where no entry had the key.
      refine Recency.lookup_absent fun other member => ?_
      obtain ⟨_, stores⟩ := wellFormed.stored
      exact stores.absent unnamed other (List.dropLast_subset _ (rest ▸ member))

/-- Giving a key a value matches the plain list. -/
theorem insertChecked_succeeds (wellFormed : WellFormed cache) (key : κ) (value : α) :
    Succeeds (cache.insertChecked key value) (cache.toRecency.insert key value) := by
  cases named : cache.slots[key]? with
  | some slot =>
    -- A known key keeps its slot: the value is replaced, then the slot is promoted.
    obtain ⟨front, back, old, stores, found, peeked, others⟩ := wellFormed.locate named
    obtain ⟨replaced, replace, kept, stored, capacity, held, fronts, backs⟩ :=
      replace_spec wellFormed stores found value
    obtain ⟨promoted, promote, done, _, list⟩ := promote_spec kept stored held
    obtain ⟨node, here, same⟩ := node_of_entries found
    have read : node.value = old := congrArg Prod.snd same
    refine ⟨(.updated old, promoted), ?_, ?_⟩
    · simp [insertChecked, named, here, replace, promote, read]
    · rw [Recency.insert, peeked]
      exact ⟨rfl, done, by rw [list, fronts, backs, capacity, ← others]; rfl⟩
  | none =>
    -- An unknown key takes a new slot, for which a full cache makes room first.
    have absent := wellFormed.peek_absent named
    have space : cache.toRecency.entries.length = cache.nodes.size := wellFormed.length_toList
    by_cases full : cache.capacity ≤ cache.nodes.size
    · obtain ⟨⟨oldKey, oldValue⟩, roomy, pop, kept, ending, left, room, free⟩ :=
        makeRoom_spec wellFormed full named
      obtain ⟨attached, attach, entered, list⟩ := enter_spec kept room value free
      have rest : roomy.toList = cache.toList.dropLast := congrArg Recency.entries left
      have capacity : roomy.capacity = cache.capacity := congrArg Recency.capacity left
      refine ⟨(.evicted oldKey oldValue,
        { attached with slots := attached.slots.insert key roomy.nodes.size }), ?_, ?_⟩
      · simp [insertChecked, named, full, pop, attach]
      · have filled : cache.toRecency.capacity ≤ cache.toRecency.entries.length := by
          rw [space]
          exact full
        have last : cache.toRecency.entries.getLast? = some (oldKey, oldValue) := ending
        rw [Recency.insert, absent, if_pos filled, last]
        exact ⟨rfl, entered, by rw [list, rest, capacity]; rfl⟩
    · obtain ⟨attached, attach, kept, list⟩ := enter_spec wellFormed (by omega) value named
      refine ⟨(.inserted,
        { attached with slots := attached.slots.insert key cache.nodes.size }), ?_, ?_⟩
      · simp [insertChecked, named, full, attach]
      · have under : ¬cache.toRecency.capacity ≤ cache.toRecency.entries.length := by
          rw [space]
          exact full
        rw [Recency.insert, absent, if_neg under]
        exact ⟨rfl, kept, list⟩

end Lru

end PackGate.Cache
