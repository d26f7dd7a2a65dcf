import PackGate.Cache.Lru

/-! The least-recently-used cache as one list of entries, the newest first. -/

namespace PackGate.Cache

/-- Entries from the newest to the oldest, and how many there may be. -/
structure Recency (κ : Type) (α : Type) where
  /-- The entries, the newest first. -/
  entries : List (κ × α)
  /-- The greatest number of entries. -/
  capacity : Nat
deriving DecidableEq, Repr

namespace Recency

variable {κ α : Type} [BEq κ]

/-- An empty list for `capacity` entries. -/
def empty (capacity : Nat) : Recency κ α :=
  ⟨[], capacity⟩

/-- The entries without the one under `key`. -/
def without (entries : List (κ × α)) (key : κ) : List (κ × α) :=
  entries.filter fun entry => !(entry.1 == key)

/-- Looks `key` up and leaves the order as it is. -/
def peek (list : Recency κ α) (key : κ) : Option α :=
  list.entries.lookup key

/-- Whether `key` is present; the order stays as it is. -/
def peekContains (list : Recency κ α) (key : κ) : Bool :=
  (list.peek key).isSome

/-- Looks `key` up and moves its entry to the front. -/
def get (list : Recency κ α) (key : κ) : Option α × Recency κ α :=
  match list.peek key with
  | none => (none, list)
  | some value => (some value, { list with entries := (key, value) :: without list.entries key })

/-- Whether `key` is present; if so its entry moves to the front. -/
def contains (list : Recency κ α) (key : κ) : Bool × Recency κ α :=
  let (found, moved) := list.get key
  (found.isSome, moved)

/-- Puts an entry in front; a full list first loses the one at its end. -/
def insert (list : Recency κ α) (key : κ) (value : α) : Insertion κ α × Recency κ α :=
  match list.peek key with
  | some old => (.updated old, { list with entries := (key, value) :: without list.entries key })
  | none =>
    if list.capacity ≤ list.entries.length then
      match list.entries.getLast? with
      | some (oldKey, oldValue) =>
        (.evicted oldKey oldValue, { list with entries := (key, value) :: list.entries.dropLast })
      | none => (.inserted, { list with entries := [(key, value)] })
    else (.inserted, { list with entries := (key, value) :: list.entries })

/-- Removes the entry under `key`. -/
def remove (list : Recency κ α) (key : κ) : Option α × Recency κ α :=
  match list.peek key with
  | none => (none, list)
  | some value => (some value, { list with entries := without list.entries key })

/-- The last entry. -/
def peekOldest (list : Recency κ α) : Option (κ × α) :=
  list.entries.getLast?

/-- Removes the last entry. -/
def pop (list : Recency κ α) : Option (κ × α) × Recency κ α :=
  (list.entries.getLast?, { list with entries := list.entries.dropLast })

/-- Removes every entry and hands them back, the last first. -/
def drain (list : Recency κ α) : List (κ × α) × Recency κ α :=
  (list.entries.reverse, { list with entries := [] })

end Recency

end PackGate.Cache
