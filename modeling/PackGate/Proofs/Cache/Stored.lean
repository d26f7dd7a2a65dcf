import PackGate.Proofs.Cache.Slab

/-! Caches that store their entries along a chain, and how a slot of theirs is emptied. -/

namespace PackGate.Cache.Lru

variable {κ α : Type}

/-- Following the links reads the entries along the chain. -/
theorem walk_eq_along {nodes : Array (Node κ α)} {rest : List Nat} {limit : Nat}
    (before : List Nat) (chained : Chained nodes (before ++ rest)) (enough : rest.length ≤ limit) :
    walk nodes limit rest.head? = along (nodes.map Node.entry) rest := by
  -- The induction follows the chain; what was read already stays in front as `before`.
  induction rest generalizing before limit with
  | nil => cases limit <;> rfl
  | cons slot rest ih =>
    obtain ⟨node, found, _, older⟩ := chained before slot rest rfl
    cases limit with
    | zero => simp at enough
    | succ limit =>
      have further : walk nodes limit rest.head? = along (nodes.map Node.entry) rest :=
        ih (before ++ [slot]) (by simpa using chained) (by simpa using enough)
      -- The link of the slot is the head of what follows it, where the walk goes on.
      simp only [List.head?_cons, walk, found, older, further]
      simp [along, found, Node.entry]

variable [BEq κ] [Hashable κ]

/-- The entries of a cache by their slots. -/
def entries (cache : Lru κ α) : Array (κ × α) :=
  cache.nodes.map Node.entry

/-- There are as many entries as nodes. -/
@[simp] theorem size_entries (cache : Lru κ α) : cache.entries.size = cache.nodes.size :=
  Array.size_map

/-- A slot's entry is that of its node. -/
theorem entries_of_node {cache : Lru κ α} {slot : Nat} {node : Node κ α}
    (found : cache.nodes[slot]? = some node) : cache.entries[slot]? = some node.entry := by
  simp [entries, found]

/-- A slot that holds an entry has a node with this entry. -/
theorem node_of_entries {cache : Lru κ α} {slot : Nat} {entry : κ × α}
    (found : cache.entries[slot]? = some entry) :
    ∃ node, cache.nodes[slot]? = some node ∧ node.entry = entry :=
  Option.map_eq_some_iff.mp (Array.getElem?_map.symm.trans found)

/-- A cache stores its entries along a chain that meets every slot and under a table of its keys. -/
structure Stores (cache : Lru κ α) (chain : List Nat) : Prop extends Strung cache chain where
  /-- The chain meets every slot of the slab. -/
  covers : ∀ slot, slot < cache.nodes.size → slot ∈ chain
  /-- The table names the slot of every key. -/
  indexed : Indexed cache.slots cache.entries

/-- The chain of a cache is the slots of its slab in some order. -/
theorem Stores.perm_range {cache : Lru κ α} {chain : List Nat} (stores : Stores cache chain) :
    chain.Perm (List.range cache.nodes.size) := by
  -- Both the chain and the slots in order meet every slot once.
  rw [List.perm_ext_iff_of_nodup stores.distinct List.nodup_range]
  intro slot
  rw [List.mem_range]
  exact ⟨stores.slot_lt, stores.covers slot⟩

/-- The chain of a cache is as long as its slab. -/
theorem Stores.length_eq {cache : Lru κ α} {chain : List Nat} (stores : Stores cache chain) :
    chain.length = cache.nodes.size := by
  rw [stores.perm_range.length_eq, List.length_range]

/-- Relinking along another chain of the same slots keeps slab and table in agreement. -/
theorem Stores.relink {cache relinked : Lru κ α} {chain other : List Nat}
    (stores : Stores cache chain) (same : Relinked cache relinked) (strung : Strung relinked other)
    (covers : ∀ slot ∈ chain, slot ∈ other) : Stores relinked other where
  toStrung := strung
  covers slot occupied := covers slot (stores.covers slot (by rw [← same.size]; exact occupied))
  indexed := by
    have entries : relinked.entries = cache.entries := same.entries
    rw [same.slots, entries]
    exact stores.indexed

/-! ## Reading -/

/-- A cache lists its entries along its chain. -/
theorem Stores.toList_eq {cache : Lru κ α} {chain : List Nat} (stores : Stores cache chain) :
    cache.toList = along cache.entries chain := by
  -- The walk starts at the newest entry and is long enough for the whole chain.
  rw [toList, stores.newest]
  exact walk_eq_along [] stores.chained (Nat.le_of_eq stores.length_eq)

/-- A cache lists as many entries as it has slots. -/
theorem Stores.length_toList {cache : Lru κ α} {chain : List Nat} (stores : Stores cache chain) :
    cache.toList.length = cache.nodes.size := by
  -- Every slot of the chain is occupied, so reading along it skips none.
  rw [stores.toList_eq, ← stores.length_eq, along, List.length_filterMap_eq_countP,
    List.countP_eq_length]
  intro slot member
  simp [stores.slot_lt member]

/-! ## Emptying a slot -/

/-- A cache stores its entries along a chain that misses one slot, about to be emptied. -/
structure StoresBut (cache : Lru κ α) (slot : Nat) (chain : List Nat) : Prop
    extends Strung cache chain where
  /-- The slot is in the slab. -/
  occupied : slot < cache.nodes.size
  /-- The chain does not meet the slot. -/
  free : slot ∉ chain
  /-- The chain meets every other slot. -/
  covers : ∀ other, other < cache.nodes.size → other ≠ slot → other ∈ chain
  /-- The table names the slot of every key, that of the slot's entry as well. -/
  indexed : Indexed cache.slots cache.entries

/-- Detaching a slot leaves a chain that misses this slot alone. -/
theorem Stores.detach {cache detached : Lru κ α} {front back : List Nat} {slot : Nat}
    (stores : Stores cache (front ++ slot :: back)) (same : Relinked cache detached)
    (strung : Strung detached (front ++ back)) : StoresBut detached slot (front ++ back) where
  toStrung := strung
  occupied := by
    rw [same.size]
    exact stores.slot_lt (by simp)
  free := by
    have distinct := List.perm_middle.nodup_iff.mp stores.distinct
    exact (List.nodup_cons.mp distinct).1
  covers := by
    intro other within apart
    -- What is not the detached slot is on one side of it.
    have member := stores.covers other (by rw [← same.size]; exact within)
    rcases List.mem_append.mp member with member | member
    · simp [member]
    · rcases List.mem_cons.mp member with equal | member
      · exact absurd equal apart
      · simp [member]
  indexed := by
    have entries : detached.entries = cache.entries := same.entries
    rw [same.slots, entries]
    exact stores.indexed

/-- A slot that is not the last one gets the last slot's entry, and the chain goes through it. -/
theorem fill_spec {cache : Lru κ α} {front back : List Nat} {slot : Nat} {last : Node κ α}
    (strung : Strung cache (front ++ (cache.nodes.size - 1) :: back))
    (found : cache.nodes[cache.nodes.size - 1]? = some last)
    (free : slot ∉ front ++ back) (inside : slot < cache.nodes.size - 1)
    (slots : Std.HashMap κ Nat) :
    let shrunk := { cache with slots, nodes := (cache.nodes.setIfInBounds slot last).pop }
    ∃ linked relinked, shrunk.linkOlder? last.newer (some slot) = some linked ∧
      linked.linkNewer? last.older (some slot) = some relinked ∧ Relinked shrunk relinked ∧
      Strung relinked (front ++ slot :: back) := by
  intro shrunk
  have distinct := List.perm_middle.nodup_iff.mp strung.distinct
  have absent := (List.nodup_cons.mp distinct).1
  -- The last slot is on the chain too, so its links name its neighbours there.
  obtain ⟨node, stored, newer, older⟩ := strung.chained front _ back rfl
  obtain rfl : node = last := Option.some.inj (stored.symm.trans found)
  have size : shrunk.nodes.size = cache.nodes.size - 1 := by simp [shrunk]
  -- Every other slot of the chain is occupied and not the last one, so it stays in the slab.
  have kept : ∀ other ∈ front ++ back, other < shrunk.nodes.size := by
    intro other member
    have occupied : other < cache.nodes.size := by
      apply strung.slot_lt
      rcases List.mem_append.mp member with member | member <;> simp [member]
    have apart : other ≠ cache.nodes.size - 1 := fun same => absent (same ▸ member)
    omega
  -- What stays in the slab is not written to.
  have nodes : ∀ other ∈ front ++ back, shrunk.nodes[other]? = cache.nodes[other]? := by
    intro other member
    have inside := kept other member
    have apart : slot ≠ other := fun same => free (same ▸ member)
    rw [size] at inside
    simp only [shrunk, Array.getElem?_pop, Array.size_setIfInBounds, if_pos inside,
      Array.getElem?_setIfInBounds_ne apart]
  -- The newer neighbour of the last slot, or the front, is linked to the refilled slot.
  obtain ⟨linked, link, linkedSame, linkedNewest, linkedOldest, linkedNodes⟩ :=
    linkOlder?_spec shrunk node.newer (some slot) fun other named => by
      rw [newer] at named
      exact kept other (by simp [List.mem_of_getLast? named])
  -- The older neighbour of the last slot, or the back, is linked to the refilled slot.
  obtain ⟨relinked, relink, relinkedSame, relinkedNewest, relinkedOldest, relinkedNodes⟩ :=
    linkNewer?_spec linked node.older (some slot) fun other named => by
      rw [older] at named
      rw [linkedSame.size]
      exact kept other (by simp [List.mem_of_mem_head? named])
  refine ⟨linked, relinked, link, relink, linkedSame.trans relinkedSame, ?_, ?_, ?_, ?_⟩
  · -- The refilled slot was free, so the chain meets it once.
    rw [List.perm_middle.nodup_iff]
    exact List.nodup_cons.mpr ⟨free, (List.nodup_cons.mp distinct).2⟩
  · refine Chained.splice [cache.nodes.size - 1] [slot] strung.chained strung.distinct ?_ ?_
    · -- Away from the seams the slots are those of before.
      intro other member
      rw [relinkedNodes, linkedNodes, nodes other member, newer, older]
      cases cache.nodes[other]? <;> simp
    · -- The refilled slot has the links that the last one had.
      intro before other after cut
      obtain ⟨rfl, rfl, rfl⟩ : before = [] ∧ other = slot ∧ after = [] := by
        cases before <;> simp_all
      have notLast : front.getLast? ≠ some other :=
        fun named => free (by simp [List.mem_of_getLast? named])
      have notHead : back.head? ≠ some other :=
        fun named => free (by simp [List.mem_of_mem_head? named])
      have filled : shrunk.nodes[other]? = some node := by
        simp [shrunk, inside]
      rw [relinkedNodes, linkedNodes, filled]
      simp [atLink, newer, older, notLast, notHead]
  · -- The front of the chain changes only if the last slot was the front.
    rw [relinkedNewest, linkedNewest, newer, strung.newest]
    cases front <;> simp [List.getLast?_cons]
  · -- The back of the chain changes only if the last slot was the back.
    rw [relinkedOldest, linkedOldest, older, strung.oldest]
    cases back <;> simp [List.getLast?_cons]

/-- Emptying a slot that is not the last one moves the last entry into it. -/
theorem StoresBut.fill [LawfulBEq κ] {cache : Lru κ α} {chain : List Nat} {slot : Nat}
    {node last : Node κ α} (stores : StoresBut cache slot chain)
    (found : cache.nodes[slot]? = some node)
    (final : cache.nodes[cache.nodes.size - 1]? = some last)
    (inside : slot < cache.nodes.size - 1) :
    let shrunk := { cache with
      slots := cache.slots.erase node.key, nodes := (cache.nodes.setIfInBounds slot last).pop }
    ∃ linked relinked, shrunk.linkOlder? last.newer (some slot) = some linked ∧
      linked.linkNewer? last.older (some slot) = some relinked ∧
      relinked.capacity = cache.capacity ∧
      ∃ other, Stores { relinked with slots := relinked.slots.insert last.key slot } other ∧
        along relinked.entries other = along cache.entries chain := by
  intro shrunk
  -- The last slot is not the one to be emptied, so it is somewhere on the chain.
  obtain ⟨front, back, rfl⟩ := List.append_of_mem
    (stores.covers (cache.nodes.size - 1) (by omega) (by omega))
  have free : slot ∉ front ++ back := by
    intro member
    rcases List.mem_append.mp member with member | member <;>
      exact stores.free (by simp [member])
  obtain ⟨linked, relinked, link, relink, same, strung⟩ :=
    fill_spec stores.toStrung final free inside (cache.slots.erase node.key)
  -- The links aside, the slab is that of before with the last entry moved.
  have entries : relinked.entries = (cache.entries.setIfInBounds slot last.entry).pop := by
    rw [Lru.entries, same.entries]
    simp [Lru.entries]
  have size : relinked.nodes.size = cache.nodes.size - 1 := by
    rw [same.size]
    simp
  refine ⟨linked, relinked, link, relink, same.capacity, front ++ slot :: back, ?_, ?_⟩
  · refine ⟨⟨strung.distinct, strung.chained, strung.newest, strung.oldest⟩, ?_, ?_⟩
    · -- Every slot that is left is on the chain: the refilled one, or one that was on it before.
      intro other within
      by_cases here : other = slot
      · simp [here]
      · have within : other < cache.nodes.size - 1 := by rw [← size]; exact within
        have member := stores.covers other (by omega) here
        rcases List.mem_append.mp member with member | member
        · simp [member]
        · rcases List.mem_cons.mp member with equal | member
          · omega
          · simp [member]
    · -- In the table the last key moves along with its entry.
      have moved := stores.indexed.move (entries_of_node found)
        (by rw [size_entries]; exact entries_of_node final) (by simpa using inside)
      show Indexed (relinked.slots.insert last.key slot) relinked.entries
      rw [entries, same.slots]
      exact moved
  · -- The slots of the chain other than the last one stay in the slab.
    have kept : ∀ other ∈ front ++ back, other < cache.entries.size - 1 := by
      intro other member
      have distinct := List.perm_middle.nodup_iff.mp stores.distinct
      have within : other < cache.nodes.size := by
        apply stores.slot_lt
        rcases List.mem_append.mp member with member | member <;> simp [member]
      have apart : other ≠ cache.nodes.size - 1 :=
        fun equal => (List.nodup_cons.mp distinct).1 (equal ▸ member)
      rw [size_entries]
      omega
    have last := entries_of_node final
    rw [← size_entries] at last
    rw [entries, along_move last kept free (by simpa using inside), size_entries]

/-- Emptying the last slot moves nothing. -/
theorem StoresBut.drop [LawfulBEq κ] {cache : Lru κ α} {chain : List Nat} {slot : Nat}
    {node : Node κ α} (stores : StoresBut cache slot chain)
    (found : cache.nodes[slot]? = some node) (final : slot = cache.nodes.size - 1)
    (last : Node κ α) :
    let shrunk := { cache with
      slots := cache.slots.erase node.key, nodes := (cache.nodes.setIfInBounds slot last).pop }
    Stores shrunk chain ∧ along shrunk.entries chain = along cache.entries chain := by
  intro shrunk
  have occupied := stores.occupied
  -- What was written into the last slot goes away with the slot.
  have nodes : shrunk.nodes = cache.nodes.pop := by
    apply Array.ext_getElem?
    intro other
    by_cases within : other < cache.nodes.size - 1
    · have apart : slot ≠ other := by omega
      simp only [shrunk, Array.getElem?_pop, Array.size_setIfInBounds, if_pos within,
        Array.getElem?_setIfInBounds_ne apart]
    · simp only [shrunk, Array.getElem?_pop, Array.size_setIfInBounds, if_neg within]
  have entries : shrunk.entries = cache.entries.pop := by
    rw [Lru.entries, nodes]
    simp [Lru.entries]
  -- The chain misses the emptied slot, which is the last one, so all it meets is kept.
  have kept : ∀ other ∈ chain, other < cache.nodes.size - 1 := by
    intro other member
    have within := stores.slot_lt member
    have apart : other ≠ slot := fun same => stores.free (same ▸ member)
    omega
  refine ⟨⟨⟨stores.distinct, ?_, stores.newest, stores.oldest⟩, ?_, ?_⟩, ?_⟩
  · -- No link leads to the slot that goes away, since it was detached.
    intro before other after cut
    obtain ⟨stored, here, links⟩ := stores.chained before other after cut
    have within := kept other (by simp [cut])
    exact ⟨stored, by rw [nodes, Array.getElem?_pop, if_pos within]; exact here, links⟩
  · -- The slots that are left are on the chain, since it misses only the last one.
    intro other within
    rw [nodes, Array.size_pop] at within
    exact stores.covers other (by omega) (by omega)
  · -- The key of the last slot is the one that is erased.
    have held := entries_of_node found
    rw [final, ← size_entries] at held
    rw [entries]
    exact stores.indexed.pop held
  · -- The chain reads none but slots that are kept.
    rw [entries]
    refine along_congr fun other member => ?_
    rw [Array.getElem?_pop, size_entries, if_pos (kept other member)]

/-- Removing a slot of the chain succeeds, hands its entry out and keeps the order of the others. -/
theorem removeAt?_spec [LawfulBEq κ] {cache : Lru κ α} {front back : List Nat} {slot : Nat}
    {entry : κ × α} (stores : Stores cache (front ++ slot :: back))
    (found : cache.entries[slot]? = some entry) :
    ∃ rest chain, cache.removeAt? slot = some (entry, rest) ∧ Stores rest chain ∧
      rest.capacity = cache.capacity ∧
      along rest.entries chain = along cache.entries (front ++ back) := by
  -- First the slot is detached, which leaves a chain that misses it.
  obtain ⟨detached, detach, same, strung⟩ := detach?_spec stores.toStrung
  have left := stores.detach same strung
  have entries : detached.entries = cache.entries := same.entries
  have occupied := left.occupied
  obtain ⟨node, here⟩ : ∃ node, detached.nodes[slot]? = some node :=
    ⟨_, Array.getElem?_eq_getElem occupied⟩
  obtain ⟨last, final⟩ : ∃ last, detached.nodes[detached.nodes.size - 1]? = some last :=
    ⟨_, Array.getElem?_eq_getElem (by omega)⟩
  -- The entry that is handed out is the one that the slot held all along.
  have removed : (node.key, node.value) = entry := by
    have held := entries_of_node here
    rw [entries, found] at held
    exact (Option.some.inj held).symm
  by_cases inside : slot < detached.nodes.size - 1
  · -- With a later slot at the end of the slab, that slot's entry fills the gap.
    obtain ⟨linked, relinked, link, relink, capacity, chain, stored, read⟩ :=
      left.fill here final inside
    refine ⟨_, chain, ?_, stored, capacity.trans same.capacity, read.trans (by rw [entries])⟩
    simp [removeAt?, detach, here, Array.back?_eq_getElem?, final, inside, link, relink, removed]
  · -- Otherwise the slot is the last one and goes away with nothing to move.
    obtain ⟨stored, read⟩ := left.drop here (by omega) last
    refine ⟨_, front ++ back, ?_, stored, same.capacity, read.trans (by rw [entries])⟩
    simp [removeAt?, detach, here, Array.back?_eq_getElem?, final, inside, removed]

end PackGate.Cache.Lru
