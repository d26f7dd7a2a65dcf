import PackGate.Proofs.Cache.Room
import PackGate.Proofs.Cache.Transcript

/-! Links, slab and table of a cache agree after every history, and no operation leaves the slab. -/

namespace PackGate.Cache

variable {κ α : Type}

/-! ## Following links -/

/-- Following one link from node to node meets the slots of a list one by one and then ends. -/
inductive Follows (nodes : Array (Node κ α)) (link : Node κ α → Option Nat) :
    Option Nat → List Nat → Prop
  /-- No slot is named, so none is met. -/
  | ends : Follows nodes link none []
  /-- A slot of the slab is met, and the link of its node is followed next. -/
  | meets {slot : Nat} {node : Node κ α} {rest : List Nat} (found : nodes[slot]? = some node)
      (further : Follows nodes link (link node) rest) :
      Follows nodes link (some slot) (slot :: rest)

/-- The links to the older side meet the slots of a chain in order. -/
theorem Chained.follows_older {nodes : Array (Node κ α)} {back : List Nat} (front : List Nat)
    (chained : Chained nodes (front ++ back)) : Follows nodes Node.older back.head? back := by
  -- The induction follows the chain; what was met already stays in front.
  induction back generalizing front with
  | nil => exact .ends
  | cons slot back ih =>
    obtain ⟨node, found, _, older⟩ := chained front slot back rfl
    have further := ih (front ++ [slot]) (by simpa using chained)
    rw [← older] at further
    exact .meets found further

/-- The links to the newer side meet the slots of a chain in reverse. -/
theorem Chained.follows_newer {nodes : Array (Node κ α)} {front : List Nat} (back : List Nat)
    (chained : Chained nodes (front ++ back)) :
    Follows nodes Node.newer front.getLast? front.reverse := by
  -- The induction takes the chain apart from its end, where these links start.
  induction front using List.reverseRecOn generalizing back with
  | nil => exact .ends
  | append_singleton front slot ih =>
    obtain ⟨node, found, newer, _⟩ := chained front slot back (by simp)
    have further := ih (slot :: back) (by simpa using chained)
    rw [← newer] at further
    rw [List.getLast?_concat, List.reverse_concat]
    exact .meets found further

/-- The keys read along occupied slots are those of their nodes, one for each slot. -/
theorem keys_along {nodes : Array (Node κ α)} {chain : List Nat}
    (occupied : ∀ slot ∈ chain, slot < nodes.size) :
    ((along (nodes.map Node.entry) chain).map (·.1)).map some =
      chain.map fun slot => (nodes[slot]?).map Node.key := by
  -- Reading along a chain passes over empty slots, so each slot has to be occupied.
  induction chain with
  | nil => rfl
  | cons slot rest ih =>
    have within := occupied slot (by simp)
    have found : (nodes.map Node.entry)[slot]? = some nodes[slot].entry := by simp [within]
    rw [along_cons found, List.map_cons, List.map_cons, List.map_cons,
      ih fun other member => occupied other (by simp [member]), Array.getElem?_eq_getElem within]
    rfl

namespace Lru

variable [BEq κ] [Hashable κ] {cache : Lru κ α}

/-! ## The representation -/

/-- The number that stands for no slot where links are words of 64 bits. -/
def noSlot : Nat :=
  Nat.pow 2 64 - 1

/-- The slab, its links and the table of keys say the same about what a cache holds. -/
structure Coherent (capacity : Nat) (cache : Lru κ α) : Prop where
  /-- There are no more entries than the capacity allows. -/
  bounded : cache.size ≤ capacity
  /-- The table knows the keys of the nodes and no others, each with the slot that holds it. -/
  indexed : ∀ (key : κ) (slot : Nat), cache.slots[key]? = some slot ↔
    ∃ node, cache.nodes[slot]? = some node ∧ node.key = key
  /-- No two slots hold the same key. -/
  distinct : ∀ (first second : Nat) (node other : Node κ α), cache.nodes[first]? = some node →
    cache.nodes[second]? = some other → node.key = other.key → first = second
  /--
  The links of either direction meet every slot once, those of the other in reverse.

  Each starts at one end of the list and stops after the node at the other end.
  -/
  linked : ∃ chain, chain.Perm (List.range cache.nodes.size) ∧
    Follows cache.nodes Node.older cache.newest chain ∧ chain.getLast? = cache.oldest ∧
    Follows cache.nodes Node.newer cache.oldest chain.reverse ∧
    chain.reverse.getLast? = cache.newest
  /-- There is no newest entry exactly if there is none at all. -/
  newest_eq_none_iff : cache.newest = none ↔ cache.nodes = #[]
  /-- There is no oldest entry exactly if there is none at all. -/
  oldest_eq_none_iff : cache.oldest = none ↔ cache.nodes = #[]
  /-- Every slot of the slab is a word, and not the one that stands for no slot. -/
  addressed : ∀ slot, slot < cache.nodes.size → slot < noSlot

/-- A table that names the slot of every entry names the slot of every node. -/
theorem Stores.slots_iff {chain : List Nat} (stores : Stores cache chain) (key : κ) (slot : Nat) :
    cache.slots[key]? = some slot ↔ ∃ node, cache.nodes[slot]? = some node ∧ node.key = key := by
  -- The table was said to agree with the entries, which are the nodes without their links.
  rw [stores.indexed key slot]
  constructor
  · rintro ⟨value, held⟩
    obtain ⟨node, found, entry⟩ := node_of_entries held
    exact ⟨node, found, congrArg Prod.fst entry⟩
  · rintro ⟨node, found, rfl⟩
    exact ⟨node.value, entries_of_node found⟩

/-- A well-formed cache for fewer entries than the address space has bytes is coherent. -/
theorem WellFormed.coherent (wellFormed : WellFormed cache)
    (limited : cache.capacity < maxAllocation) : Coherent cache.capacity cache := by
  -- One chain serves for both directions, since each node names both of its neighbours in it.
  obtain ⟨chain, stores⟩ := wellFormed.stored
  have empty : chain = [] ↔ cache.nodes = #[] := by
    rw [← List.length_eq_zero_iff, stores.length_eq, Array.size_eq_zero_iff]
  refine ⟨wellFormed.bounded, stores.slots_iff, ?_,
    ⟨chain, stores.perm_range, ?_, stores.oldest.symm, ?_, ?_⟩, ?_, ?_, ?_⟩
  · -- Two slots with one key are both the slot that the table names for it.
    intro first second node other here there same
    have held : cache.entries[second]? = some (node.key, other.value) := by
      rw [same]
      exact entries_of_node there
    exact stores.indexed.unique (entries_of_node here) held
  · rw [stores.newest]
    exact Chained.follows_older [] stores.chained
  · rw [stores.oldest]
    exact Chained.follows_newer [] (by simpa using stores.chained)
  · rw [List.getLast?_reverse, stores.newest]
  · rw [stores.newest, List.head?_eq_none_iff, empty]
  · rw [stores.oldest, List.getLast?_eq_none_iff, empty]
  · -- There are fewer slots than bytes, and fewer bytes than words.
    intro slot occupied
    have bounded := wellFormed.bounded
    have few : maxAllocation < noSlot := by decide
    omega

/-! ## Staying inside the slab -/

/-- Popping until nothing is left hands out a list of entries, and no pop leaves the slab. -/
inductive Pops : Lru κ α → List (κ × α) → Lru κ α → Prop
  /-- Nothing is left to pop. -/
  | ends {cache : Lru κ α} (empty : cache.popChecked = some (none, cache)) : Pops cache [] cache
  /-- One entry is popped, and then the others. -/
  | takes {cache rest last : Lru κ α} {entry : κ × α} {entries : List (κ × α)}
      (popped : cache.popChecked = some (some entry, rest)) (further : Pops rest entries last) :
      Pops cache (entry :: entries) last

/-- No operation asks for a slot outside the slab, and the loops end with the last entry. -/
structure Safe (cache : Lru κ α) : Prop where
  /-- Looking a key up stays inside the slab. -/
  get : ∀ key, cache.getChecked key = some (cache.get key)
  /-- Asking for a key stays inside the slab. -/
  contains : ∀ key, cache.containsChecked key = some (cache.contains key)
  /-- Looking a key up in place stays inside the slab. -/
  peek : ∀ key, cache.peekChecked key = some (cache.peek key)
  /-- Reading the oldest entry stays inside the slab. -/
  peekOldest : cache.peekOldestChecked = some cache.peekOldest
  /-- Giving a key a value stays inside the slab. -/
  insert : ∀ key value, cache.insertChecked key value = some (cache.insert key value)
  /-- Removing a key stays inside the slab. -/
  remove : ∀ key, cache.removeChecked key = some (cache.remove key)
  /-- Removing the oldest entry stays inside the slab. -/
  pop : cache.popChecked = some cache.pop
  /-- Draining pops as often as there are entries, and then finds none. -/
  drain : Pops cache cache.drain.1 cache.drain.2 ∧ cache.drain.1.length = cache.size
  /-- Listing the keys follows as many links as there are entries, one to each key. -/
  keys : ∃ chain, Follows cache.nodes Node.older cache.newest chain ∧
    chain.length = cache.size ∧
    cache.keys.map some = chain.map fun slot => (cache.nodes[slot]?).map Node.key

/-- An operation that is never led outside the slab is the same with its check and without. -/
theorem Succeeds.eq_getD {β : Type} {checked : Option (β × Lru κ α)}
    {expected : β × Recency κ α} (succeeds : Succeeds checked expected) (other : β × Lru κ α) :
    checked = some (checked.getD other) := by
  obtain ⟨done, found, _⟩ := succeeds
  rw [found]
  rfl

variable [LawfulBEq κ]

/-- Popping as often as there are entries ends where nothing is left. -/
theorem WellFormed.pops (limit : Nat) (wellFormed : WellFormed cache)
    (enough : cache.toList.length = limit) :
    Pops cache (popUpTo limit cache).1 (popUpTo limit cache).2 := by
  induction limit generalizing cache with
  | zero =>
    -- Nothing is listed, so there is no oldest entry that the loop could pop.
    refine .ends ?_
    cases ending : cache.oldest with
    | none => simp [popChecked, ending]
    | some slot =>
      obtain ⟨front, entry, _, _, list⟩ := wellFormed.oldest ending
      simp [list] at enough
  | succ limit ih =>
    obtain ⟨entry, rest, popped, kept, list, _⟩ :=
      pop_last wellFormed (List.ne_nil_of_length_eq_add_one enough)
    -- A pop takes one entry off the end of what is listed, so one pop fewer is left to do.
    rw [list, List.length_append, List.length_singleton] at enough
    have checked : cache.popChecked = some cache.pop := (popChecked_succeeds wellFormed).eq_getD _
    rw [popped] at checked
    rw [popUpTo, popped]
    exact .takes checked (ih kept (Nat.add_right_cancel enough))

/-- A well-formed cache is never led outside its slab. -/
theorem WellFormed.safe (wellFormed : WellFormed cache) : Safe cache where
  get key := (getChecked_succeeds wellFormed key).eq_getD _
  contains key := (containsChecked_succeeds wellFormed key).eq_getD _
  peek key := by rw [Lru.peek, peekChecked_eq wellFormed]; rfl
  peekOldest := by rw [Lru.peekOldest, peekOldestChecked_eq wellFormed]; rfl
  insert key value := (insertChecked_succeeds wellFormed key value).eq_getD _
  remove key := (removeChecked_succeeds wellFormed key).eq_getD _
  pop := (popChecked_succeeds wellFormed).eq_getD _
  drain := by
    -- What a drain hands out is the list of the entries, from its end.
    refine ⟨wellFormed.pops _ wellFormed.length_toList, ?_⟩
    have handed : cache.drain.1 = cache.toList.reverse := (drain_matches wellFormed).answer
    rw [handed, List.length_reverse, wellFormed.length_toList]
    rfl
  keys := by
    -- The links that are followed are those of the chain, and the list is read along it.
    obtain ⟨chain, stores⟩ := wellFormed.stored
    refine ⟨chain, ?_, stores.length_eq, ?_⟩
    · rw [stores.newest]
      exact Chained.follows_older [] stores.chained
    · rw [Lru.keys, stores.toList_eq]
      exact keys_along fun slot member => stores.slot_lt member

/--
Whatever has been asked of a new cache, its slab, its links and its table agree.

No operation on it then leaves the slab, and its loops end with its last entry.
-/
theorem reached_coherent {layout : Layout} {capacity : Nat}
    (created : create layout capacity = .ok cache) (operations : List (Operation κ α)) :
    Coherent capacity (reached perform operations cache) ∧
      Safe (reached perform operations cache) := by
  -- The operations leave the capacity alone, and the one asked for passed the check of its size.
  obtain ⟨wellFormed, list⟩ := reached_matches created operations
  have same : (reached perform operations cache).capacity = capacity :=
    (congrArg Recency.capacity list).trans (Recency.capacity_reached _ operations)
  have coherent := wellFormed.coherent (by
    rw [same]
    exact capacity_lt_of_create created)
  rw [same] at coherent
  exact ⟨coherent, wellFormed.safe⟩

/-- A cache of three whose first slot was refilled from the last one, and then promoted. -/
theorem reached_coherent_refilled :
    ∃ cache : Lru Nat Nat, create ⟨16, 32⟩ 3 = .ok cache ∧
      let refilled := reached perform
        [.insert 1 10, .insert 2 20, .insert 3 30, .remove 1, .get 2] cache
      Coherent 3 refilled ∧ Safe refilled ∧ refilled.keys = [2, 3] := by
  obtain ⟨cache, created⟩ : ∃ cache : Lru Nat Nat, create ⟨16, 32⟩ 3 = .ok cache := ⟨_, rfl⟩
  obtain ⟨coherent, safe⟩ := reached_coherent created
    [.insert 1 10, .insert 2 20, .insert 3 30, .remove 1, .get 2]
  exact ⟨cache, created, coherent, safe, by rw [keys_reached created]; decide⟩

end Lru

end PackGate.Cache
