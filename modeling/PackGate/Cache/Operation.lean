import PackGate.Cache.Recency

/-! What can be asked of a cache, and its answers, for linked slots and for the plain list. -/

namespace PackGate.Cache

/-- What can be asked of a cache. -/
inductive Operation (κ : Type) (α : Type) where
  /-- Gives a key a value and makes it the newest. -/
  | insert (key : κ) (value : α)
  /-- Looks a key up and makes it the newest. -/
  | get (key : κ)
  /-- Asks for a key and makes it the newest. -/
  | contains (key : κ)
  /-- Looks a key up and leaves the order as it is. -/
  | peek (key : κ)
  /-- Asks for a key and leaves the order as it is. -/
  | peekContains (key : κ)
  /-- Asks for the oldest entry. -/
  | peekOldest
  /-- Removes a key. -/
  | remove (key : κ)
  /-- Removes the oldest entry. -/
  | pop
  /-- Removes every entry. -/
  | drain
  /-- Asks for the number of entries. -/
  | size
  /-- Asks for the keys from the newest to the oldest. -/
  | keys
deriving DecidableEq, Repr

/-- What a cache answers. -/
inductive Answer (κ : Type) (α : Type) where
  /-- What an insertion did. -/
  | insertion (done : Insertion κ α)
  /-- The value of a key, if it is present. -/
  | value (found : Option α)
  /-- Whether a key is present. -/
  | presence (found : Bool)
  /-- An entry, if there is one. -/
  | entry (found : Option (κ × α))
  /-- Entries in the order they left. -/
  | entries (left : List (κ × α))
  /-- A number of entries. -/
  | number (count : Nat)
  /-- Keys from the newest to the oldest. -/
  | order (keys : List κ)
deriving DecidableEq, Repr

variable {κ α : Type}

/-- What a cache of linked slots answers, and what becomes of it. -/
def Lru.perform [BEq κ] [Hashable κ] (cache : Lru κ α) :
    Operation κ α → Answer κ α × Lru κ α
  | .insert key value => (cache.insert key value).map .insertion id
  | .get key => (cache.get key).map .value id
  | .contains key => (cache.contains key).map .presence id
  | .peek key => (.value (cache.peek key), cache)
  | .peekContains key => (.presence (cache.peekContains key), cache)
  | .peekOldest => (.entry cache.peekOldest, cache)
  | .remove key => (cache.remove key).map .value id
  | .pop => cache.pop.map .entry id
  | .drain => cache.drain.map .entries id
  | .size => (.number cache.size, cache)
  | .keys => (.order cache.keys, cache)

/-- What a list of entries answers, and what becomes of it. -/
def Recency.perform [BEq κ] (list : Recency κ α) : Operation κ α → Answer κ α × Recency κ α
  | .insert key value => (list.insert key value).map .insertion id
  | .get key => (list.get key).map .value id
  | .contains key => (list.contains key).map .presence id
  | .peek key => (.value (list.peek key), list)
  | .peekContains key => (.presence (list.peekContains key), list)
  | .peekOldest => (.entry list.peekOldest, list)
  | .remove key => (list.remove key).map .value id
  | .pop => list.pop.map .entry id
  | .drain => list.drain.map .entries id
  | .size => (.number list.entries.length, list)
  | .keys => (.order (list.entries.map (·.1)), list)

/-- What a machine answers to operations one after the other, and what becomes of it. -/
def answers {σ ω β : Type} (perform : σ → ω → β × σ) : List ω → σ → List β × σ
  | [], state => ([], state)
  | operation :: rest, state =>
    let (answer, next) := perform state operation
    let (further, last) := answers perform rest next
    (answer :: further, last)

end PackGate.Cache
