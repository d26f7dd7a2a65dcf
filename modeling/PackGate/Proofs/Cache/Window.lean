import PackGate.Cache.LruSet
import PackGate.Proofs.Cache.Ranking
import PackGate.Proofs.Cache.Transcript

/-! A key is held for as long as fewer other keys than the capacity have been used after it. -/

namespace PackGate.Cache

variable {κ α : Type}

/-! ## Uses -/

/-- The key that an operation uses: one that it inserts, or one that it finds and promotes. -/
def Operation.used? : Operation κ α → Answer κ α → Option κ
  | .insert key _, _ => some key
  | .get key, .value (some _) => some key
  | .contains key, .presence true => some key
  | _, _ => none

/-- The key that an operation inserts. -/
def Operation.inserted? : Operation κ α → Option κ
  | .insert key _ => some key
  | _ => none

/-- Whether an operation takes entries out of a cache. -/
def Operation.isRemoval : Operation κ α → Bool
  | .remove _ | .pop | .drain => true
  | _ => false

/-- The key that an operation on a set uses: one that it adds, or one that it finds and promotes. -/
def SetOperation.used? : SetOperation κ → Bool → Option κ
  | .add key, _ => some key
  | .contains key, true => some key
  | _, _ => none

/-- The key that an operation on a set adds. -/
def SetOperation.added? : SetOperation κ → Option κ
  | .add key => some key
  | _ => none

section Uses

variable {ω β : Type} (used? : ω → β → Option κ)

/-- The keys that a history uses, in the order of their uses. -/
def uses (steps : List (ω × β)) : List κ :=
  steps.filterMap fun step => used? step.1 step.2

/-- One more operation uses its key last, if it uses one. -/
theorem uses_concat {σ : Type} (perform : σ → ω → β × σ) (operations : List ω) (operation : ω)
    (state : σ) :
    uses used? (transcript perform (operations ++ [operation]) state) =
      uses used? (transcript perform operations state) ++
        (used? operation (perform (reached perform operations state) operation).1).toList := by
  -- The last operation stands alone behind the others, and it uses one key or none.
  rw [transcript_concat, uses, List.filterMap_append, uses]
  cases used : used? operation (perform (reached perform operations state) operation).1 <;>
    simp [used]

end Uses

/-- What is present, and how much of it, is told by the keys that were used and entered. -/
structure Windowed [DecidableEq κ] (capacity : Nat) (uses entered : List κ)
    (present : κ → Bool) (size : Nat) : Prop where
  /-- The keys that are present are those used within the capacity. -/
  present : ∀ key, present key = true ↔ UsedWithin capacity uses key
  /-- There are as many as there were different ones, up to the capacity. -/
  size : size = min capacity entered.dedup.length

/-! ## The plain list -/

namespace Recency

variable [BEq κ]

/-- Asking for a key uses it where looking it up does. -/
theorem used_contains (list : Recency κ α) (key : κ) :
    Operation.used? (.contains key) (list.perform (.contains key)).1 =
      Operation.used? (.get key) (list.perform (.get key)).1 := by
  simp only [perform, contains, Prod.map_fst]
  cases (list.get key).1 <;> rfl

variable [LawfulBEq κ] {list : Recency κ α}

/-- A key that is found is raised without a loss. -/
theorem Proper.keys_raised (proper : list.Proper) {key : κ} {value : α}
    (found : list.peek key = some value) :
    ((key, value) :: without list.entries key).map (·.1) =
      (raise key list.keys).take list.capacity := by
  -- There are as many keys as before, so none of them is beyond the capacity.
  have length := (proper.perm found).length_eq
  have bounded := proper.bounded
  rw [List.map_cons, keys_without]
  refine (List.take_of_length_le ?_).symm
  rw [← keys_without]
  simp only [List.length_cons, List.length_map] at length ⊢
  omega

/-- A lookup raises the key that it uses, if it uses one. -/
theorem Proper.keys_get (proper : list.Proper) (key : κ) :
    (list.get key).2.keys =
      match Operation.used? (.get key) (list.perform (.get key)).1 with
      | none => list.keys
      | some key => (raise key list.keys).take list.capacity := by
  -- A lookup that finds nothing uses nothing.
  simp only [perform, get]
  cases found : list.peek key with
  | none => rfl
  | some value => exact proper.keys_raised found

/-- An operation that removes nothing raises the key that it uses, if it uses one. -/
theorem Proper.keys_perform (proper : list.Proper) {operation : Operation κ α}
    (lasting : operation.isRemoval = false) :
    (list.perform operation).2.keys =
      match operation.used? (list.perform operation).1 with
      | none => list.keys
      | some key => (raise key list.keys).take list.capacity := by
  cases operation with
  | insert key value =>
    -- Whether the key is new or not, its entry comes first and the last one may have to go.
    show (list.insert key value).2.entries.map (·.1) = (raise key list.keys).take list.capacity
    rw [proper.insert_entries, List.map_take, List.map_cons, keys_without]
    rfl
  | get key => exact proper.keys_get key
  | contains key =>
    rw [used_contains]
    exact proper.keys_get key
  | remove key => cases lasting
  | pop => cases lasting
  | drain => cases lasting
  | _ => rfl

/-- A lookup uses a key that is present. -/
theorem mem_keys_of_used {key other : κ}
    (used : Operation.used? (.get key) (list.perform (.get key)).1 = some other) :
    other ∈ list.keys := by
  simp only [perform, Prod.map_fst, get_answer] at used
  cases found : list.peek key with
  | none =>
    rw [found] at used
    cases used
  | some value =>
    rw [found] at used
    cases used
    exact peekContains_iff.mp (Option.isSome_of_eq_some found)

/-- A key is used where it is inserted, or where it is present. -/
theorem used_cases {operation : Operation κ α} {key : κ}
    (used : operation.used? (list.perform operation).1 = some key) :
    operation.inserted? = some key ∨ key ∈ list.keys := by
  cases operation with
  | insert other value => exact .inl used
  | get other => exact .inr (mem_keys_of_used used)
  | contains other =>
    rw [used_contains] at used
    exact .inr (mem_keys_of_used used)
  | _ => cases used

end Recency

/-! ## Histories of a new cache -/

/-- What is inserted is used. -/
theorem Operation.used_of_inserted {operation : Operation κ α} {key : κ} (answer : Answer κ α)
    (inserted : operation.inserted? = some key) : operation.used? answer = some key := by
  cases operation with
  | insert other value => exact inserted
  | _ => cases inserted

namespace Lru

section Plain

variable [BEq κ] [LawfulBEq κ] [Hashable κ] {layout : Layout} {capacity : Nat} {cache : Lru κ α}
  {operations : List (Operation κ α)}

/-- The keys that are kept are those ranked first by their last use. -/
theorem keys_eq_take_ranking (created : create layout capacity = .ok cache)
    (lasting : ∀ operation ∈ operations, operation.isRemoval = false) :
    (reached Recency.perform operations (Recency.empty capacity)).keys =
      (ranking (uses Operation.used? (transcript Recency.perform operations
        (Recency.empty capacity)))).take capacity := by
  induction operations using List.reverseRecOn with
  | nil => exact List.take_nil.symm
  | append_singleton operations operation ih =>
    have before := ih fun earlier member => lasting earlier (List.mem_append_left _ member)
    have last := lasting operation (by simp)
    rw [reached_concat, (proper_reached created operations).keys_perform last,
      uses_concat, before, Recency.capacity_reached]
    -- The last operation uses a key or leaves the keys alone.
    split
    · rename_i unused
      rw [unused, Option.toList_none, List.append_nil]
    · -- The keys may be cut to the capacity before one of them is raised or after it.
      rename_i key used
      rw [used, Option.toList_some, ranking_concat]
      exact take_raise_take (nodup_ranking _) key capacity

/-- The keys that were used are those that were inserted. -/
theorem mem_uses (created : create layout capacity = .ok cache)
    (lasting : ∀ operation ∈ operations, operation.isRemoval = false) (key : κ) :
    key ∈ uses Operation.used? (transcript Recency.perform operations (Recency.empty capacity)) ↔
      key ∈ operations.filterMap Operation.inserted? := by
  induction operations using List.reverseRecOn with
  | nil => rfl
  | append_singleton operations operation ih =>
    have lasting : ∀ earlier ∈ operations, earlier.isRemoval = false :=
      fun earlier member => lasting earlier (List.mem_append_left _ member)
    have before := ih lasting
    have one : (operations ++ [operation]).filterMap Operation.inserted? =
        operations.filterMap Operation.inserted? ++ operation.inserted?.toList := by
      rw [List.filterMap_append]
      cases inserted : operation.inserted? <;> simp [inserted]
    rw [uses_concat, one, List.mem_append, List.mem_append, before, Option.mem_toList,
      Option.mem_toList]
    refine ⟨fun used => used.elim .inl fun used => ?_,
      fun entered => entered.imp_right (Operation.used_of_inserted _)⟩
    -- A key that is found was ranked by an earlier use.
    rcases Recency.used_cases used with inserted | present
    · exact .inr inserted
    · rw [keys_eq_take_ranking created lasting] at present
      exact .inl (before.mp (mem_ranking.mp (List.mem_of_mem_take present)))

end Plain

variable [BEq κ] [LawfulBEq κ] [Hashable κ] [DecidableEq κ] {layout : Layout} {capacity : Nat}
  {cache : Lru κ α}

/-- What a new cache holds after a history without removals is told by its uses. -/
theorem windowed (created : create layout capacity = .ok cache)
    (operations : List (Operation κ α))
    (lasting : ∀ operation ∈ operations, operation.isRemoval = false) :
    Windowed capacity (uses Operation.used? (transcript perform operations cache))
      (operations.filterMap Operation.inserted?) (reached perform operations cache).peekContains
      (reached perform operations cache).size := by
  -- The keys that the cache lists are the first ones of the ranking.
  obtain ⟨wellFormed, list⟩ := reached_matches created operations
  have held := keys_eq_take_ranking created lasting
  rw [← transcript_eq created, ← list] at held
  constructor
  · intro key
    rw [peekContains_eq wellFormed, Recency.peekContains_iff, held, mem_take_ranking]
  · -- As many different keys were used as were inserted.
    have same : (uses Operation.used? (transcript perform operations cache)).dedup.length =
        (operations.filterMap Operation.inserted?).dedup.length := by
      refine List.Perm.length_eq ?_
      rw [List.perm_ext_iff_of_nodup (List.nodup_dedup _) (List.nodup_dedup _)]
      intro key
      rw [List.mem_dedup, List.mem_dedup, transcript_eq created, mem_uses created lasting]
    have length := congrArg List.length held
    rw [List.length_take, length_ranking, same] at length
    rw [← length, Recency.keys, List.length_map]
    exact wellFormed.length_toList.symm

end Lru

/-! ## Histories of a new set -/

/-- What is asked of the cache inside a set. -/
def SetOperation.onCache : SetOperation κ → Operation κ Unit
  | .add key => .insert key ()
  | .contains key => .contains key
  | .peekContains key => .peekContains key

/-- What is asked of a set takes nothing out of its cache. -/
theorem SetOperation.lasting_onCache (requests : List (SetOperation κ)) :
    ∀ operation ∈ requests.map SetOperation.onCache, operation.isRemoval = false := by
  intro operation member
  obtain ⟨request, _, rfl⟩ := List.mem_map.mp member
  cases request <;> rfl

/-- What is added to a set is inserted into its cache. -/
theorem SetOperation.inserted_onCache (requests : List (SetOperation κ)) :
    (requests.map SetOperation.onCache).filterMap Operation.inserted? =
      requests.filterMap SetOperation.added? := by
  rw [List.filterMap_map]
  refine List.filterMap_congr fun request _ => ?_
  cases request <;> rfl

namespace LruSet

variable [BEq κ] [Hashable κ]

/-- What is asked of a set is asked of its cache. -/
theorem inner_perform (set : LruSet κ) (request : SetOperation κ) :
    (set.perform request).2.inner = (set.inner.perform request.onCache).2 := by
  -- An addition looks at what the insertion did, but goes on with the same cache either way.
  cases request with
  | add key =>
    simp only [perform, add, SetOperation.onCache, Lru.perform, Prod.map_snd, id]
    split <;> simp_all
  | _ => rfl

/-- An operation on a set uses what its cache uses. -/
theorem used_perform (set : LruSet κ) (request : SetOperation κ) :
    request.used? (set.perform request).1 =
      request.onCache.used? (set.inner.perform request.onCache).1 := by
  -- Only a lookup with a promotion is answered in two forms, as a flag and as a presence.
  cases request with
  | contains key =>
    simp only [perform, contains, SetOperation.onCache, Lru.perform, Prod.map_fst]
    cases (set.inner.contains key).1 <;> rfl
  | _ => rfl

/-- A history of a set leads its cache where the same history on the cache does. -/
theorem inner_reached (requests : List (SetOperation κ)) (set : LruSet κ) :
    (reached perform requests set).inner =
      reached Lru.perform (requests.map SetOperation.onCache) set.inner := by
  -- After the first request the set holds the cache that its own first operation leaves.
  induction requests generalizing set with
  | nil => rfl
  | cons request rest ih =>
    have further := ih (set.perform request).2
    rw [inner_perform] at further
    exact further

/-- A history of a set uses what the same history of its cache uses. -/
theorem uses_eq (requests : List (SetOperation κ)) (set : LruSet κ) :
    uses SetOperation.used? (transcript perform requests set) =
      uses Operation.used?
        (transcript Lru.perform (requests.map SetOperation.onCache) set.inner) := by
  -- The last request uses a key in the set exactly where its operation does in the cache.
  induction requests using List.reverseRecOn with
  | nil => rfl
  | append_singleton requests request ih =>
    rw [uses_concat, List.map_append, List.map_singleton, uses_concat, ih, used_perform,
      inner_reached]

/-- A new set holds a new cache. -/
theorem create_inner {layout : Layout} {capacity : Nat} {set : LruSet κ}
    (created : create layout capacity = .ok set) :
    Lru.create layout capacity = .ok set.inner := by
  unfold create at created
  cases inner : (Lru.create layout capacity : Except CreateFault (Lru κ Unit)) with
  | error fault =>
    rw [inner] at created
    cases created
  | ok cache =>
    rw [inner] at created
    cases created
    rfl

variable [LawfulBEq κ]

/-- A key is added to a well-formed set where it is not present. -/
theorem add_iff {set : LruSet κ} (wellFormed : set.inner.WellFormed) (key : κ) :
    (set.add key).1 = true ↔ ¬set.peekContains key = true := by
  -- An addition reports a new key unless the cache inside says that it updated one.
  have news : (set.add key).1 = true ↔ (set.inner.insert key ()).1 ≠ .updated () := by
    unfold add
    split <;> simp_all
  rw [news, (Lru.insert_matches wellFormed key ()).answer, ne_eq, Recency.insert_eq_updated_iff,
    peekContains, Lru.peekContains_eq wellFormed, Recency.peekContains, Option.isSome_iff_exists,
    Unique.exists_iff]

end LruSet

/-! ## The window -/

section Criterion

variable [BEq κ] [LawfulBEq κ] [Hashable κ] [DecidableEq κ]

/--
A key is held if fewer different keys than the capacity were used after its last use.

This goes for every history without removals of a new cache and of a new set, and tells how many
keys are held and which ones are new to the set.
-/
theorem present_iff_used_within {layout : Layout} {capacity : Nat} :
    (∀ cache : Lru κ α, Lru.create layout capacity = .ok cache →
      ∀ operations : List (Operation κ α),
        (∀ operation ∈ operations, operation.isRemoval = false) →
        Windowed capacity (uses Operation.used? (transcript Lru.perform operations cache))
          (operations.filterMap Operation.inserted?)
          (reached Lru.perform operations cache).peekContains
          (reached Lru.perform operations cache).size) ∧
      ∀ set : LruSet κ, LruSet.create layout capacity = .ok set →
        ∀ requests : List (SetOperation κ),
          Windowed capacity (uses SetOperation.used? (transcript LruSet.perform requests set))
              (requests.filterMap SetOperation.added?)
              (reached LruSet.perform requests set).peekContains
              (reached LruSet.perform requests set).size ∧
            ∀ key, ((reached LruSet.perform requests set).add key).1 = true ↔
              ¬UsedWithin capacity
                (uses SetOperation.used? (transcript LruSet.perform requests set)) key := by
  constructor
  · intro cache created operations lasting
    exact Lru.windowed created operations lasting
  · intro set created requests
    -- A set does what its cache does.
    have inner := LruSet.create_inner created
    have led := LruSet.inner_reached requests set
    have holds := Lru.windowed inner _ (SetOperation.lasting_onCache requests)
    rw [← led, ← LruSet.uses_eq, SetOperation.inserted_onCache] at holds
    refine ⟨⟨holds.present, holds.size⟩, fun key => ?_⟩
    have wellFormed := (Lru.reached_matches inner (requests.map SetOperation.onCache)).1
    rw [← led] at wellFormed
    rw [LruSet.add_iff wellFormed, LruSet.peekContains, holds.present]

end Criterion

/-- A lookup keeps the key found and a later insertion drops the other one, in a cache and a set. -/
theorem present_iff_used_within_two :
    ∃ (cache : Lru Nat Nat) (set : LruSet Nat),
      Lru.create ⟨16, 32⟩ 2 = .ok cache ∧ LruSet.create ⟨16, 24⟩ 2 = .ok set ∧
      (let left := reached Lru.perform
          [.insert 1 10, .insert 2 20, .get 1, .contains 7, .peek 2, .insert 3 30] cache;
        left.peekContains 1 = true ∧ ¬left.peekContains 2 = true ∧ left.size = 2) ∧
      (let left := reached LruSet.perform [.add 1, .add 2, .contains 1, .contains 7, .add 3] set;
        left.peekContains 1 = true ∧ left.size = 2 ∧ (left.add 2).1 = true) := by
  -- The uses are 1, 2, 1 and 3 in both; the lookup of 7 and the one in place do not count.
  obtain ⟨cache, created⟩ : ∃ cache : Lru Nat Nat, Lru.create ⟨16, 32⟩ 2 = .ok cache := ⟨_, rfl⟩
  obtain ⟨set, made⟩ : ∃ set : LruSet Nat, LruSet.create ⟨16, 24⟩ 2 = .ok set := ⟨_, rfl⟩
  refine ⟨cache, set, created, made, ?_, ?_⟩
  · obtain ⟨present, size⟩ := present_iff_used_within.1 cache created
      [.insert 1 10, .insert 2 20, .get 1, .contains 7, .peek 2, .insert 3 30] (by decide)
    simp only [Lru.transcript_eq created] at present
    exact ⟨(present 1).mpr (by decide), mt (present 2).mp (by decide), size.trans (by decide)⟩
  · obtain ⟨⟨present, size⟩, news⟩ := (present_iff_used_within (α := Unit)).2 set made
      [.add 1, .add 2, .contains 1, .contains 7, .add 3]
    simp only [LruSet.uses_eq, Lru.transcript_eq (LruSet.create_inner made)] at present news
    exact ⟨(present 1).mpr (by decide), size.trans (by decide), (news 2).mpr (by decide)⟩

end PackGate.Cache
