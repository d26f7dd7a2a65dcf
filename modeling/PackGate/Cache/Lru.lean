import Std.Data.HashMap

/-! A cache of fixed capacity that makes room by dropping the entry used least recently. -/

namespace PackGate.Cache

/-- Why no cache can be created. -/
inductive CreateFault where
  /-- The capacity is zero. -/
  | zeroCapacity
  /-- The table of keys would not fit the address space. -/
  | tableOverflow
  /-- The slab of nodes would not fit the address space. -/
  | slabOverflow
deriving DecidableEq, Repr

namespace CreateFault

/-- The fault in words. -/
def message : CreateFault → String
  | .zeroCapacity => "cache capacity must be greater than zero"
  | .tableOverflow => "Hash table capacity overflow"
  | .slabOverflow => "capacity overflow"

/-- Whether the fault is refused as an error; the others end the program. -/
def isRefusal : CreateFault → Bool
  | .zeroCapacity => true
  | _ => false

end CreateFault

/-- The largest number of bytes that one allocation can ask for. -/
def maxAllocation : Nat :=
  Nat.pow 2 63 - 1

/-- The least power of two that is not below a number. -/
def powerOfTwoFrom (number : Nat) : Nat :=
  if number ≤ 1 then 1 else Nat.pow 2 (Nat.log2 (number - 1) + 1)

/-- What the parts of a cache measure in bytes. -/
structure Layout where
  /-- A bucket of the table, which holds a key and its slot. -/
  bucket : Nat
  /-- A node of the slab. -/
  node : Nat
deriving DecidableEq, Repr

/-- The buckets of a table for `capacity` keys: eight for seven keys, and some for few keys. -/
def bucketsFor (capacity : Nat) : Nat :=
  if capacity < 4 then 4 else if capacity < 8 then 8 else powerOfTwoFrom (capacity * 8 / 7)

/-- The bytes that a table for `capacity` keys asks for, with buckets of so many bytes. -/
-- The buckets end on a bound of sixteen bytes; one control byte for each follows, and a group.
def tableBytes (bucket capacity : Nat) : Nat :=
  let buckets := bucketsFor capacity
  (buckets * bucket + 15) / 16 * 16 + buckets + 16

/-- An entry in its slot, linked to the entries used just after and just before it. -/
structure Node (κ : Type) (α : Type) where
  /-- The entry's key. -/
  key : κ
  /-- The entry's value. -/
  value : α
  /-- The slot of the next more recent entry. -/
  newer : Option Nat
  /-- The slot of the next older entry. -/
  older : Option Nat
deriving Repr

/-- What an insertion did. -/
inductive Insertion (κ : Type) (α : Type) where
  /-- The key was new and there was room. -/
  | inserted
  /-- The key was present; the value it had is handed back. -/
  | updated (old : α)
  /-- The key was new and the cache full; the entry that made room is handed back. -/
  | evicted (key : κ) (value : α)
deriving DecidableEq, Repr

/-- Entries in consecutive slots, found by key and linked from the newest to the oldest. -/
structure Lru (κ : Type) (α : Type) [BEq κ] [Hashable κ] where
  /-- The slot of every key. -/
  slots : Std.HashMap κ Nat
  /-- The occupied slots. -/
  nodes : Array (Node κ α)
  /-- The slot of the newest entry. -/
  newest : Option Nat
  /-- The slot of the oldest entry. -/
  oldest : Option Nat
  /-- The greatest number of entries. -/
  capacity : Nat

namespace Lru

variable {κ α : Type} [BEq κ] [Hashable κ]

/-- An empty cache for `capacity` entries, with parts of the given sizes. -/
def create (layout : Layout) (capacity : Nat) : Except CreateFault (Lru κ α) :=
  if capacity = 0 then .error .zeroCapacity
  -- A table may not come within fifteen bytes of the limit, so that its start can be aligned.
  else if maxAllocation - 15 < tableBytes layout.bucket capacity then .error .tableOverflow
  else if maxAllocation < capacity * layout.node then .error .slabOverflow
  else .ok { slots := ∅, nodes := #[], newest := none, oldest := none, capacity }

/-- The number of entries. -/
def size (cache : Lru κ α) : Nat :=
  cache.nodes.size

/-- Whether there is no entry. -/
def isEmpty (cache : Lru κ α) : Bool :=
  cache.nodes.isEmpty

/-! ## Links

Every function here answers `none` when it is led to a slot outside the slab.
-/

/-- Changes the node in a slot. -/
def updateNode? (cache : Lru κ α) (slot : Nat) (change : Node κ α → Node κ α) :
    Option (Lru κ α) :=
  if occupied : slot < cache.nodes.size then
    some { cache with nodes := cache.nodes.set slot (change cache.nodes[slot]) }
  else none

/-- Makes `target` the older neighbour of what `link` names: an entry, or the front of the list. -/
def linkOlder? (cache : Lru κ α) (link target : Option Nat) : Option (Lru κ α) :=
  match link with
  | none => some { cache with newest := target }
  | some slot => cache.updateNode? slot fun node => { node with older := target }

/-- Makes `target` the newer neighbour of what `link` names: an entry, or the back of the list. -/
def linkNewer? (cache : Lru κ α) (link target : Option Nat) : Option (Lru κ α) :=
  match link with
  | none => some { cache with oldest := target }
  | some slot => cache.updateNode? slot fun node => { node with newer := target }

/-- Takes the entry in `slot` out of the list and closes the gap. -/
def detach? (cache : Lru κ α) (slot : Nat) : Option (Lru κ α) := do
  let node ← cache.nodes[slot]?
  let bridged ← cache.linkOlder? node.newer node.older
  let closed ← bridged.linkNewer? node.older node.newer
  closed.updateNode? slot fun node => { node with newer := none, older := none }

/-- Puts the entry in `slot`, which is in no list, in front of the newest. -/
def attachFront? (cache : Lru κ α) (slot : Nat) : Option (Lru κ α) := do
  let front := cache.newest
  let placed ← cache.updateNode? slot fun node => { node with newer := none, older := front }
  let linked ← placed.linkNewer? front (some slot)
  return { linked with newest := some slot }

/-- Makes the entry in `slot` the newest. -/
def promote? (cache : Lru κ α) (slot : Nat) : Option (Lru κ α) :=
  if cache.newest = some slot then some cache
  else do
    let detached ← cache.detach? slot
    detached.attachFront? slot

/-- Removes the entry in `slot`; the entry in the last slot moves into the hole. -/
def removeAt? (cache : Lru κ α) (slot : Nat) : Option ((κ × α) × Lru κ α) := do
  let detached ← cache.detach? slot
  let node ← detached.nodes[slot]?
  let last ← detached.nodes.back?
  let nodes := (detached.nodes.setIfInBounds slot last).pop
  let shrunk := { detached with nodes, slots := detached.slots.erase node.key }
  if slot < nodes.size then
    let linked ← shrunk.linkOlder? last.newer (some slot)
    let relinked ← linked.linkNewer? last.older (some slot)
    return ((node.key, node.value), { relinked with slots := relinked.slots.insert last.key slot })
  else return ((node.key, node.value), shrunk)

/-! ## Checked operations -/

/-- Looks `key` up and makes it the newest. -/
def getChecked (cache : Lru κ α) (key : κ) : Option (Option α × Lru κ α) :=
  match cache.slots[key]? with
  | none => some (none, cache)
  | some slot => do
    let promoted ← cache.promote? slot
    let node ← promoted.nodes[slot]?
    return (some node.value, promoted)

/-- Whether `key` is present; if so it becomes the newest. -/
def containsChecked (cache : Lru κ α) (key : κ) : Option (Bool × Lru κ α) :=
  match cache.slots[key]? with
  | none => some (false, cache)
  | some slot => do
    let promoted ← cache.promote? slot
    return (true, promoted)

/-- Looks `key` up and leaves the order as it is. -/
def peekChecked (cache : Lru κ α) (key : κ) : Option (Option α) :=
  match cache.slots[key]? with
  | none => some none
  | some slot => do
    let node ← cache.nodes[slot]?
    return some node.value

/-- The oldest entry, which leaves the cache next. -/
def peekOldestChecked (cache : Lru κ α) : Option (Option (κ × α)) :=
  match cache.oldest with
  | none => some none
  | some slot => do
    let node ← cache.nodes[slot]?
    return some (node.key, node.value)

/-- Removes `key`. -/
def removeChecked (cache : Lru κ α) (key : κ) : Option (Option α × Lru κ α) :=
  match cache.slots[key]? with
  | none => some (none, cache)
  | some slot => do
    let ((_, value), rest) ← cache.removeAt? slot
    return (some value, rest)

/-- Removes the oldest entry. -/
def popChecked (cache : Lru κ α) : Option (Option (κ × α) × Lru κ α) :=
  match cache.oldest with
  | none => some (none, cache)
  | some slot => do
    let (entry, rest) ← cache.removeAt? slot
    return (some entry, rest)

/-- Gives `key` a new value, or enters it in front; a full cache drops its oldest entry first. -/
def insertChecked (cache : Lru κ α) (key : κ) (value : α) :
    Option (Insertion κ α × Lru κ α) :=
  match cache.slots[key]? with
  | some slot => do
    let node ← cache.nodes[slot]?
    let replaced ← cache.updateNode? slot fun node => { node with value }
    let promoted ← replaced.promote? slot
    return (.updated node.value, promoted)
  | none => do
    let (dropped, roomy) ←
      if cache.capacity ≤ cache.nodes.size then cache.popChecked else some (none, cache)
    let slot := roomy.nodes.size
    let extended := { roomy with nodes := roomy.nodes.push ⟨key, value, none, none⟩ }
    let attached ← extended.attachFront? slot
    let entered := { attached with slots := attached.slots.insert key slot }
    match dropped with
    | some (oldKey, oldValue) => return (.evicted oldKey oldValue, entered)
    | none => return (.inserted, entered)

/-! ## Operations -/

/-- Looks `key` up and makes it the newest. -/
def get (cache : Lru κ α) (key : κ) : Option α × Lru κ α :=
  (cache.getChecked key).getD (none, cache)

/-- Whether `key` is present; if so it becomes the newest. -/
def contains (cache : Lru κ α) (key : κ) : Bool × Lru κ α :=
  (cache.containsChecked key).getD (false, cache)

/-- Looks `key` up and leaves the order as it is. -/
def peek (cache : Lru κ α) (key : κ) : Option α :=
  (cache.peekChecked key).join

/-- Whether `key` is present; the order stays as it is. -/
def peekContains (cache : Lru κ α) (key : κ) : Bool :=
  cache.slots.contains key

/-- The oldest entry, which leaves the cache next. -/
def peekOldest (cache : Lru κ α) : Option (κ × α) :=
  cache.peekOldestChecked.join

/-- Gives `key` a value and makes it the newest. -/
def insert (cache : Lru κ α) (key : κ) (value : α) : Insertion κ α × Lru κ α :=
  (cache.insertChecked key value).getD (.inserted, cache)

/-- Removes `key` and hands its value back. -/
def remove (cache : Lru κ α) (key : κ) : Option α × Lru κ α :=
  (cache.removeChecked key).getD (none, cache)

/-- Removes the oldest entry and hands it back. -/
def pop (cache : Lru κ α) : Option (κ × α) × Lru κ α :=
  cache.popChecked.getD (none, cache)

/-- Removes at most `limit` entries, the oldest first. -/
def popUpTo : Nat → Lru κ α → List (κ × α) × Lru κ α
  | 0, cache => ([], cache)
  | limit + 1, cache =>
    match cache.pop with
    | (none, rest) => ([], rest)
    | (some entry, rest) =>
      let (entries, last) := popUpTo limit rest
      (entry :: entries, last)

/-- Removes every entry and hands them back, the oldest first. -/
def drain (cache : Lru κ α) : List (κ × α) × Lru κ α :=
  popUpTo cache.nodes.size cache

/-- The entries met in at most `limit` steps towards the oldest, starting at a link. -/
def walk (nodes : Array (Node κ α)) : Nat → Option Nat → List (κ × α)
  | 0, _ => []
  | _ + 1, none => []
  | limit + 1, some slot =>
    match nodes[slot]? with
    | none => []
    | some node => (node.key, node.value) :: walk nodes limit node.older

/-- The entries from the newest to the oldest. -/
def toList (cache : Lru κ α) : List (κ × α) :=
  walk cache.nodes cache.nodes.size cache.newest

/-- The keys from the newest to the oldest. -/
def keys (cache : Lru κ α) : List κ :=
  cache.toList.map (·.1)

/-- The cache's size and capacity in words. -/
def summary (cache : Lru κ α) : String :=
  s!"LruCache \x7b len: {cache.size}, capacity: {cache.capacity} \x7d"

end Lru

end PackGate.Cache
