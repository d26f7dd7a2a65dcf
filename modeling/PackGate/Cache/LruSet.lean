import PackGate.Cache.Lru

/-! A set of fixed capacity that makes room by dropping the key used least recently. -/

namespace PackGate.Cache

/-- Keys alone, held in a cache without values. -/
structure LruSet (κ : Type) [BEq κ] [Hashable κ] where
  /-- The cache that holds the keys. -/
  inner : Lru κ Unit

/-- What can be asked of a set without taking keys out of it. -/
inductive SetOperation (κ : Type) where
  /-- Adds a key as the newest. -/
  | add (key : κ)
  /-- Asks for a key and makes it the newest. -/
  | contains (key : κ)
  /-- Asks for a key and leaves the order as it is. -/
  | peekContains (key : κ)
deriving DecidableEq, Repr

namespace LruSet

variable {κ : Type} [BEq κ] [Hashable κ]

/-- An empty set for `capacity` keys, with parts of the given sizes. -/
def create (layout : Layout) (capacity : Nat) : Except CreateFault (LruSet κ) :=
  (Lru.create layout capacity).map LruSet.mk

/-- The greatest number of keys. -/
def capacity (set : LruSet κ) : Nat :=
  set.inner.capacity

/-- The number of keys. -/
def size (set : LruSet κ) : Nat :=
  set.inner.size

/-- Adds `key` as the newest and says whether it was absent. -/
def add (set : LruSet κ) (key : κ) : Bool × LruSet κ :=
  match set.inner.insert key () with
  | (.updated (), inner) => (false, ⟨inner⟩)
  | (_, inner) => (true, ⟨inner⟩)

/-- Whether `key` is present; if so it becomes the newest. -/
def contains (set : LruSet κ) (key : κ) : Bool × LruSet κ :=
  let (present, inner) := set.inner.contains key
  (present, ⟨inner⟩)

/-- Whether `key` is present; the order stays as it is. -/
def peekContains (set : LruSet κ) (key : κ) : Bool :=
  set.inner.peekContains key

/-- Removes `key` and says whether it was present. -/
def remove (set : LruSet κ) (key : κ) : Bool × LruSet κ :=
  let (value, inner) := set.inner.remove key
  (value.isSome, ⟨inner⟩)

/-- Removes every key. -/
def clear (set : LruSet κ) : LruSet κ :=
  ⟨set.inner.drain.2⟩

/-- What a set answers, and what becomes of it. -/
def perform (set : LruSet κ) : SetOperation κ → Bool × LruSet κ
  | .add key => set.add key
  | .contains key => set.contains key
  | .peekContains key => (set.peekContains key, set)

/-- The set's size and capacity in words. -/
def summary (set : LruSet κ) : String :=
  s!"LruSet \x7b inner: {set.inner.summary} \x7d"

end LruSet

end PackGate.Cache
