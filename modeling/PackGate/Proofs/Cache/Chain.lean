import PackGate.Cache.Lru

/-! The slots of a slab as one chain from the newest entry to the oldest, and its relinking. -/

namespace PackGate.Cache

variable {κ α : Type}

/-- What a node holds apart from its links. -/
def Node.entry (node : Node κ α) : κ × α :=
  (node.key, node.value)

/-- Every node of a chain names its two neighbours in the chain. -/
def Chained (nodes : Array (Node κ α)) (chain : List Nat) : Prop :=
  -- A slot is told apart by where the chain is cut, so both ends need no clause of their own.
  ∀ before slot after, chain = before ++ slot :: after →
    ∃ node, nodes[slot]? = some node ∧ node.newer = before.getLast? ∧ node.older = after.head?

/-- A change of nodes at the slot that a link names, if it names one. -/
def atLink (link : Option Nat) (change : Node κ α → Node κ α) (slot : Nat) (node : Node κ α) :
    Node κ α :=
  if link = some slot then change node else node

/-! ## Cutting a chain -/

/-- A cut of two joined lists falls into the first or into the second. -/
theorem cut_append {first second before after : List Nat} {slot : Nat}
    (cut : first ++ second = before ++ slot :: after) :
    (∃ rest, first = before ++ slot :: rest ∧ after = rest ++ second) ∨
      (∃ rest, second = rest ++ slot :: after ∧ before = first ++ rest) := by
  -- Comparing where the two lists are cut tells which part the slot is in.
  rcases List.append_eq_append_iff.mp cut with ⟨rest, split, tail⟩ | ⟨rest, split, tail⟩
  · exact .inr ⟨rest, tail, split⟩
  · cases rest with
    -- Nothing of the first list is left behind the cut, so the second one starts with the slot.
    | nil => exact .inr ⟨[], by simpa using tail.symm, by simpa using split.symm⟩
    | cons head rest =>
      -- The part of the first list behind the cut starts with the slot itself.
      rw [List.cons_append, List.cons.injEq] at tail
      obtain ⟨same, tail⟩ := tail
      subst same
      exact .inl ⟨rest, split, tail⟩

/-- A slot does not occur again at the end of what follows it. -/
theorem getLast?_ne_of_nodup {before rest : List Nat} {slot : Nat}
    (distinct : (before ++ slot :: rest).Nodup) : rest.getLast? ≠ some slot := by
  intro last
  -- The slot stands before the rest, and a chain without repetition cannot meet it there again.
  have behind := (List.nodup_append.mp distinct).2.1
  exact (List.nodup_cons.mp behind).1 (List.mem_of_getLast? last)

/--
Putting another middle between two parts of a chain needs no links but those at the two seams.

Taking a slot out, putting one in and moving one to another slot are all of this form.
-/
theorem Chained.splice {nodes spliced : Array (Node κ α)} {front back : List Nat}
    (old fresh : List Nat) (chained : Chained nodes (front ++ (old ++ back)))
    (distinct : (front ++ (old ++ back)).Nodup)
    (outside : ∀ slot ∈ front ++ back, spliced[slot]? = (nodes[slot]?).map fun node =>
      atLink back.head? (fun node => { node with newer := (front ++ fresh).getLast? }) slot
        (atLink front.getLast? (fun node => { node with older := (fresh ++ back).head? }) slot
          node))
    (inside : ∀ before slot after, fresh = before ++ slot :: after →
      ∃ node, spliced[slot]? = some node ∧ node.newer = (front ++ before).getLast? ∧
        node.older = (after ++ back).head?) :
    Chained spliced (front ++ (fresh ++ back)) := by
  obtain ⟨_, tailDistinct, apart⟩ := List.nodup_append.mp distinct
  intro before slot after cut
  -- The cut falls into the front, into the new middle, or into the back.
  rcases cut_append cut with ⟨rest, split, tail⟩ | ⟨rest, split, head⟩
  · -- In the front only the slot at the seam gets a new older neighbour.
    subst split tail
    obtain ⟨node, found, newer, older⟩ := chained before slot (rest ++ (old ++ back)) (by simp)
    have notBack : back.head? ≠ some slot := by
      intro named
      exact apart slot (by simp) slot (by simp [List.mem_of_mem_head? named]) rfl
    refine ⟨_, by rw [outside slot (by simp), found]; rfl, ?_⟩
    cases rest with
    | nil => simp [atLink, notBack, newer]
    | cons next rest =>
      have notLast := getLast?_ne_of_nodup (List.nodup_append.mp distinct).1
      rw [List.getLast?_cons] at notLast
      simp [atLink, notBack, List.getLast?_cons, notLast, newer, older]
  · rcases cut_append split with ⟨later, inner, tail⟩ | ⟨later, inner, middle⟩
    · -- In the middle the hypothesis about the new slots says it all.
      subst head tail
      exact inside rest slot later inner
    · -- In the back only the slot at the seam gets a new newer neighbour.
      subst inner head middle
      obtain ⟨node, found, newer, older⟩ := chained (front ++ (old ++ later)) slot after (by simp)
      have notFront : front.getLast? ≠ some slot := by
        intro named
        exact apart slot (List.mem_of_getLast? named) slot (by simp) rfl
      refine ⟨_, by rw [outside slot (by simp), found]; rfl, ?_⟩
      cases later with
      | nil => simp [atLink, notFront, older]
      | cons next later =>
        have notHead : next ≠ slot := by
          intro same
          subst same
          have backDistinct := (List.nodup_append.mp tailDistinct).2.1
          simp at backDistinct
        simp [atLink, notFront, notHead, newer, older, List.getLast?_cons]

namespace Lru

variable [BEq κ] [Hashable κ]

/-- A cache is strung along a chain when its links and both its ends follow the chain. -/
structure Strung (cache : Lru κ α) (chain : List Nat) : Prop where
  /-- No slot is met twice. -/
  distinct : chain.Nodup
  /-- The nodes follow the chain in both directions. -/
  chained : Chained cache.nodes chain
  /-- The chain starts at the newest entry. -/
  newest : cache.newest = chain.head?
  /-- The chain ends at the oldest entry. -/
  oldest : cache.oldest = chain.getLast?

/-- Two caches differ in their links at most. -/
structure Relinked (before after : Lru κ α) : Prop where
  /-- The table of keys is the same. -/
  slots : after.slots = before.slots
  /-- The capacity is the same. -/
  capacity : after.capacity = before.capacity
  /-- Every slot holds the same entry. -/
  entries : after.nodes.map Node.entry = before.nodes.map Node.entry

/-- A cache differs from itself in nothing. -/
theorem Relinked.refl (cache : Lru κ α) : Relinked cache cache :=
  ⟨rfl, rfl, rfl⟩

/-- Relinking twice is relinking. -/
theorem Relinked.trans {first middle last : Lru κ α} (early : Relinked first middle)
    (late : Relinked middle last) : Relinked first last :=
  ⟨late.slots.trans early.slots, late.capacity.trans early.capacity,
    late.entries.trans early.entries⟩

/-- Relinking keeps the number of slots. -/
theorem Relinked.size {before after : Lru κ α} (relinked : Relinked before after) :
    after.nodes.size = before.nodes.size := by
  -- The entries of both slabs are one array, so both slabs have its length.
  have same := congrArg Array.size relinked.entries
  simpa only [Array.size_map] using same

/-- A slot of a chain is one of the slab. -/
theorem Strung.slot_lt {cache : Lru κ α} {chain : List Nat} (strung : Strung cache chain)
    {slot : Nat} (member : slot ∈ chain) : slot < cache.nodes.size := by
  -- The chain is cut at the slot, and the cut shows an occupied node.
  obtain ⟨before, after, cut⟩ := List.append_of_mem member
  obtain ⟨node, found, _⟩ := strung.chained before slot after cut
  exact (Array.getElem?_eq_some_iff.mp found).1

/-! ## Single links -/

/-- Changing the links of an occupied slot succeeds and touches nothing else. -/
theorem updateNode?_spec {cache : Lru κ α} {changed : Nat} (occupied : changed < cache.nodes.size)
    (change : Node κ α → Node κ α) (kept : ∀ node, (change node).entry = node.entry) :
    ∃ updated, cache.updateNode? changed change = some updated ∧ Relinked cache updated ∧
      updated.newest = cache.newest ∧ updated.oldest = cache.oldest ∧
      ∀ slot : Nat,
        updated.nodes[slot]? = (cache.nodes[slot]?).map (atLink (some changed) change slot) := by
  -- The slot is in the slab, so the checked update is the plain one.
  refine ⟨_, dif_pos occupied, ⟨rfl, rfl, ?_⟩, rfl, rfl, ?_⟩
  · -- The entry that is written is the one that was there.
    apply Array.ext_getElem?
    intro slot
    by_cases here : changed = slot
    · subst here
      simp [kept, occupied]
    · simp [here]
  · intro slot
    by_cases here : changed = slot
    · subst here
      simp [atLink, occupied]
    · rw [Array.getElem?_set_ne occupied here]
      cases cache.nodes[slot]? <;> simp [atLink, here]

/-- Linking towards the older side succeeds inside the slab and changes one link or the front. -/
theorem linkOlder?_spec (cache : Lru κ α) (link target : Option Nat)
    (inside : ∀ slot, link = some slot → slot < cache.nodes.size) :
    ∃ linked, cache.linkOlder? link target = some linked ∧ Relinked cache linked ∧
      linked.newest = (if link = none then target else cache.newest) ∧
      linked.oldest = cache.oldest ∧
      ∀ slot : Nat, linked.nodes[slot]? = (cache.nodes[slot]?).map
        (atLink link (fun node => { node with older := target }) slot) := by
  -- Without a link to follow, the front of the chain takes the target instead.
  cases link with
  | none =>
    refine ⟨_, rfl, ⟨rfl, rfl, rfl⟩, rfl, rfl, ?_⟩
    intro slot
    cases cache.nodes[slot]? <;> simp [atLink]
  | some changed =>
    obtain ⟨linked, done, relinked, newest, oldest, nodes⟩ := updateNode?_spec (inside changed rfl)
      (fun node => { node with older := target }) fun _ => rfl
    exact ⟨linked, done, relinked, by simpa using newest, oldest, nodes⟩

/-- Linking towards the newer side succeeds inside the slab and changes one link or the back. -/
theorem linkNewer?_spec (cache : Lru κ α) (link target : Option Nat)
    (inside : ∀ slot, link = some slot → slot < cache.nodes.size) :
    ∃ linked, cache.linkNewer? link target = some linked ∧ Relinked cache linked ∧
      linked.newest = cache.newest ∧
      linked.oldest = (if link = none then target else cache.oldest) ∧
      ∀ slot : Nat, linked.nodes[slot]? = (cache.nodes[slot]?).map
        (atLink link (fun node => { node with newer := target }) slot) := by
  -- Without a link to follow, the back of the chain takes the target instead.
  cases link with
  | none =>
    refine ⟨_, rfl, ⟨rfl, rfl, rfl⟩, rfl, rfl, ?_⟩
    intro slot
    cases cache.nodes[slot]? <;> simp [atLink]
  | some changed =>
    obtain ⟨linked, done, relinked, newest, oldest, nodes⟩ := updateNode?_spec (inside changed rfl)
      (fun node => { node with newer := target }) fun _ => rfl
    exact ⟨linked, done, relinked, newest, by simpa using oldest, nodes⟩

/-! ## Detaching and attaching -/

/-- Taking a slot out of the chain succeeds and joins the two parts around it. -/
theorem detach?_spec {cache : Lru κ α} {front back : List Nat} {slot : Nat}
    (strung : Strung cache (front ++ slot :: back)) :
    ∃ detached, cache.detach? slot = some detached ∧ Relinked cache detached ∧
      Strung detached (front ++ back) := by
  obtain ⟨node, found, newer, older⟩ := strung.chained front slot back rfl
  have occupied : slot < cache.nodes.size := strung.slot_lt (by simp)
  -- The newer neighbour, or the front, is linked to the older one.
  obtain ⟨bridged, bridge, bridgedSame, bridgedNewest, bridgedOldest, bridgedNodes⟩ :=
    linkOlder?_spec cache front.getLast? back.head? fun other named =>
      strung.slot_lt (by simp [List.mem_of_getLast? named])
  -- The older neighbour, or the back, is linked to the newer one.
  obtain ⟨closed, close, closedSame, closedNewest, closedOldest, closedNodes⟩ :=
    linkNewer?_spec bridged back.head? front.getLast? fun other named => by
      rw [bridgedSame.size]
      exact strung.slot_lt (by simp [List.mem_of_mem_head? named])
  -- Relinking takes no slot away, so the links of the detached slot can still be cleared.
  have still : slot < closed.nodes.size := by
    rw [closedSame.size, bridgedSame.size]
    exact occupied
  obtain ⟨detached, clear, clearedSame, clearedNewest, clearedOldest, clearedNodes⟩ :=
    updateNode?_spec still
      (fun node => { node with newer := none, older := none }) fun _ => rfl
  refine ⟨detached, ?_, (bridgedSame.trans closedSame).trans clearedSame, ?_⟩
  · simp [detach?, found, newer, older, bridge, close, clear]
  -- A chain without repetition meets the detached slot nowhere else.
  have distinct := List.perm_middle.nodup_iff.mp strung.distinct
  have absent := (List.nodup_cons.mp distinct).1
  refine ⟨(List.nodup_cons.mp distinct).2, ?_, ?_, ?_⟩
  · refine Chained.splice [slot] [] strung.chained strung.distinct ?_ (by simp)
    intro other member
    -- The slot that leaves is not among the others, so clearing its links changes none of them.
    have apart : slot ≠ other := fun same => absent (same ▸ member)
    rw [clearedNodes, closedNodes, bridgedNodes]
    cases cache.nodes[other]? <;> simp [atLink, apart]
  · -- The front of the chain changes only if the detached slot was the front.
    rw [clearedNewest, closedNewest, bridgedNewest, strung.newest]
    cases front <;> simp [List.getLast?_cons]
  · -- The back of the chain changes only if the detached slot was the back.
    rw [clearedOldest, closedOldest, bridgedOldest, strung.oldest]
    cases back <;> simp [List.getLast?_cons]

/-- Attaching a slot that is in no chain succeeds and puts it in front. -/
theorem attachFront?_spec {cache : Lru κ α} {chain : List Nat} {slot : Nat}
    (strung : Strung cache chain) (free : slot ∉ chain) (occupied : slot < cache.nodes.size) :
    ∃ attached, cache.attachFront? slot = some attached ∧ Relinked cache attached ∧
      Strung attached (slot :: chain) := by
  -- The slot is linked to the entry in front so far.
  obtain ⟨placed, place, placedSame, placedNewest, placedOldest, placedNodes⟩ :=
    updateNode?_spec occupied
      (fun node => { node with newer := none, older := cache.newest }) fun _ => rfl
  -- The entry in front so far, or the back of an empty chain, is linked to the slot.
  obtain ⟨linked, link, linkedSame, linkedNewest, linkedOldest, linkedNodes⟩ :=
    linkNewer?_spec placed cache.newest (some slot) fun other named => by
      rw [placedSame.size]
      rw [strung.newest] at named
      exact strung.slot_lt (List.mem_of_mem_head? named)
  refine ⟨{ linked with newest := some slot }, ?_, ?_, ?_⟩
  · simp [attachFront?, place, link]
  · exact placedSame.trans ⟨linkedSame.slots, linkedSame.capacity, linkedSame.entries⟩
  refine ⟨List.nodup_cons.mpr ⟨free, strung.distinct⟩, ?_, rfl, ?_⟩
  · -- The chain gains the slot at its front and loses nothing.
    have chained : Chained cache.nodes ([] ++ ([] ++ chain)) := strung.chained
    refine chained.splice [] [slot] strung.distinct ?_ ?_
    · -- The other slots are apart from the new one, so at most one link of theirs changes.
      intro other member
      have apart : slot ≠ other := fun same => free (same ▸ member)
      rw [linkedNodes, placedNodes, strung.newest]
      cases cache.nodes[other]? <;> simp [atLink, apart]
    · -- The new slot is alone in its middle, and it has the old chain behind it.
      intro before other after cut
      obtain ⟨rfl, rfl, rfl⟩ : before = [] ∧ other = slot ∧ after = [] := by
        cases before <;> simp_all
      have notHead : chain.head? ≠ some other := fun named => free (List.mem_of_mem_head? named)
      rw [linkedNodes, placedNodes, strung.newest]
      simp [atLink, notHead, occupied]
  · -- Only the first slot of all becomes the back as well.
    rw [linkedOldest, placedOldest, strung.oldest, strung.newest]
    cases chain <;> simp [List.getLast?_cons]

/-- Promoting a slot of the chain succeeds and moves it to the front. -/
theorem promote?_spec {cache : Lru κ α} {front back : List Nat} {slot : Nat}
    (strung : Strung cache (front ++ slot :: back)) :
    ∃ promoted, cache.promote? slot = some promoted ∧ Relinked cache promoted ∧
      Strung promoted (slot :: (front ++ back)) := by
  -- The chain meets the slot once, so the rest of it does not.
  have distinct := List.perm_middle.nodup_iff.mp strung.distinct
  have absent := (List.nodup_cons.mp distinct).1
  by_cases first : cache.newest = some slot
  · -- The slot that leads the chain already has nothing in front of it.
    cases front with
    | nil => exact ⟨cache, by simp [promote?, first], .refl cache, strung⟩
    | cons head front =>
      have same : head = slot := by simpa [strung.newest] using first
      exact absurd (by simp [same]) absent
  · -- Any other slot is detached and attached again at the front.
    obtain ⟨detached, detach, detachedSame, detachedStrung⟩ := detach?_spec strung
    obtain ⟨promoted, attach, attachedSame, attachedStrung⟩ :=
      attachFront?_spec detachedStrung absent
        (by rw [detachedSame.size]; exact strung.slot_lt (by simp))
    refine ⟨promoted, ?_, detachedSame.trans attachedSame, attachedStrung⟩
    simp [promote?, first, detach, attach]

end Lru

end PackGate.Cache
