import PackGate.Factory.Attached
import PackGate.Proofs.Cache.Contents
import PackGate.Proofs.Factory.Transition

/-! What a factory is to callers that come one at a time: a phase, a generation, and one list. -/

namespace PackGate.Factory

/-- A factory without flights: every call is over before the next one comes. -/
structure Register (ρ : Type) where
  /-- The greatest number of entries. -/
  capacity : Nat
  /-- The time that one build may take. -/
  budget : Duration
  /-- The phase. -/
  phase : Phase := .uninitialized
  /-- How many refreshes and shutdowns have taken effect. -/
  generation : Nat := 0
  /-- The build of every cached resource under its identifier, the one used last in front. -/
  entries : List (Identifier × Nat) := []
  /-- Every call of the builder, with what it hands out if it succeeds; builds are its positions. -/
  calls : List (Identifier × ρ) := []
  /-- The build of every resource that was released, the latest last. -/
  released : List Nat := []
  /-- How often the factory listens to a refresh event. -/
  attachments : Nat := 0

namespace Register

variable {ρ : Type} (register : Register ρ)

/-! ## Lookups -/

/-- Makes a new factory serve. -/
def activate : Register ρ :=
  if register.phase = .uninitialized then { register with phase := .active } else register

/-- Puts an entry in front; a full list first loses the last one, whose resource is released. -/
def push (id : Identifier) (build : Nat) : Register ρ :=
  if register.entries.length < register.capacity then
    { register with entries := (id, build) :: register.entries }
  else
    { register with
      entries := (id, build) :: register.entries.dropLast
      released := register.released ++ (register.entries.getLast?.map (·.2)).toList }

/-- Calls the builder once; a resource is cached, and anything else changes nothing. -/
def build (work : Work ρ) (id : Identifier) : Except FactoryError Nat × Register ρ :=
  let number := register.calls.length
  let called := { register with calls := register.calls ++ [(id, work.resource)] }
  match work.outcome.report? id register.budget with
  | none => (.ok number, called.push id number)
  | some error => (.error error, called)

/-- Hands out the resource cached for an identifier and puts it in front, or builds one. -/
def look (work : Work ρ) (id : Identifier) : Except FactoryError Nat × Register ρ :=
  match register.entries.lookup id with
  | some build =>
    (.ok build, { register with
      entries := (id, build) :: register.entries.filter (·.1 != id) })
  | none => register.build work id

/-- Looks an identifier up; `builder` is what the builder does if it is called. -/
def get (builder : Identifier → Work ρ) (id : Identifier) : Except FactoryError Nat × Register ρ :=
  if register.phase = .shutdown then (.error .closed, register)
  else register.activate.look (builder id) id

/-- Whether a resource is cached for an identifier; this is no use of it. -/
def isCached (id : Identifier) : Bool :=
  (register.entries.lookup id).isSome

/-! ## Ends -/

/-- Releases every entry, the oldest first, and opens a new generation; answers their number. -/
def clear (phase : Phase) : Nat × Register ρ :=
  if register.phase = .shutdown then (0, register)
  else
    (register.entries.length, { register with
      phase
      generation := register.generation + 1
      entries := []
      released := register.released ++ register.entries.reverse.map (·.2) })

/-- Empties the list, unless the factory is shut down. -/
def invalidate : Nat × Register ρ :=
  register.clear .active

/-- Closes the factory for good. -/
def shutdown : Nat × Register ρ :=
  register.clear .shutdown

/-- Makes the factory listen to refresh events, once more if it did already. -/
def attach : Register ρ :=
  { register.activate with attachments := register.attachments + 1 }

/-- Empties the list so many times. -/
def invalidates : Nat → Register ρ → Register ρ
  | 0, register => register
  | number + 1, register => invalidates number register.invalidate.2

/-- Sends a refresh event, which empties the list once for each attachment. -/
def refresh : Nat × Register ρ :=
  (register.attachments, register.invalidates register.attachments)

/-- The factory seen from outside; between two calls nobody is on a flight. -/
def stats : Stats where
  phase := register.phase
  generation := register.generation
  cached := register.entries.length
  capacity := register.capacity
  inFlight := 0

/-- Answers a call; `script` tells what each call of the builder does. -/
def perform (script : Nat → Identifier → Work ρ) (register : Register ρ) :
    Attached.Call → Attached.Reply × Register ρ
  | .get id =>
    let (found, next) := register.get (script register.calls.length) id
    (.ofLookup (some found), next)
  | .isCached id => (.presence (register.isCached id), register)
  | .invalidate => (.number register.invalidate.1, register.invalidate.2)
  | .attach => (.done, register.attach)
  | .refresh => (.number register.refresh.1, register.refresh.2)
  | .stats => (.stats register.stats, register)
  | .shutdown => (.number register.shutdown.1, register.shutdown.2)

/-! ## Lists of entries -/

/-- The plain list of a cache that has the entries of a register. -/
def recency : Cache.Recency Identifier Nat :=
  ⟨register.entries, register.capacity⟩

/-- Pushing a new entry does to the list what inserting it into a cache does. -/
theorem push_eq_insert {id : Identifier} (build : Nat)
    (absent : register.entries.lookup id = none) :
    (register.recency.insert id build).2 = (register.push id build).recency ∧
      (∀ entry ∈ ((register.recency.insert id build).1.displaced id).toList,
        entry ∈ register.entries) ∧
      (register.push id build).released = register.released ++
        ((register.recency.insert id build).1.displaced id).toList.map (·.2) := by
  -- Nothing is updated, so what matters is whether there is room.
  have missing : register.recency.peek id = none := absent
  rw [Cache.Recency.insert, missing, push]
  dsimp only
  by_cases room : register.entries.length < register.capacity
  · have spare : ¬register.recency.capacity ≤ register.recency.entries.length := Nat.not_le.mpr room
    rw [if_pos room, if_neg spare]
    exact ⟨rfl, by simp [Cache.Insertion.displaced], by simp [Cache.Insertion.displaced]⟩
  · have full : register.recency.capacity ≤ register.recency.entries.length := Nat.not_lt.mp room
    rw [if_neg room, if_pos full]
    -- A full list has a last entry, unless nothing may be listed at all.
    cases last : register.entries.getLast? with
    | none =>
      have empty : register.entries = [] := List.getLast?_eq_none_iff.mp last
      simp [recency, empty, Cache.Insertion.displaced]
    | some oldest =>
      have listed : oldest ∈ register.entries := List.mem_of_getLast? last
      have ends : register.recency.entries.getLast? = some oldest := last
      rw [ends]
      refine ⟨rfl, ?_, rfl⟩
      intro entry member
      cases List.mem_singleton.mp member
      exact listed

/-- What is listed after a push was listed before, or was pushed. -/
theorem mem_push {id : Identifier} {build : Nat} {entry : Identifier × Nat}
    (member : entry ∈ (register.push id build).entries) :
    entry = (id, build) ∨ entry ∈ register.entries := by
  -- What is pushed out leaves fewer of the old entries behind the new one.
  unfold push at member
  split at member
  · exact List.mem_cons.mp member
  · exact (List.mem_cons.mp member).imp_right fun inside => List.dropLast_subset _ inside

/-- Releasing all entries leaves no refresh under way. -/
theorem calm_clear (calm : register.phase ≠ .invalidating) {phase : Phase}
    (next : phase ≠ .invalidating) : (register.clear phase).2.phase ≠ .invalidating := by
  unfold clear
  split
  · exact calm
  · exact next

/-- Emptying the list several times releases every entry once. -/
theorem invalidates_open (runs : register.phase ≠ .shutdown) (number : Nat) :
    register.invalidates (number + 1) = { register with
      phase := .active
      generation := register.generation + (number + 1)
      entries := []
      released := register.released ++ register.entries.reverse.map (·.2) } := by
  -- Once is one clearing that opens a generation and serves again.
  have once (register : Register ρ) (runs : register.phase ≠ .shutdown) :
      register.invalidate.2 = { register with
        phase := .active
        generation := register.generation + 1
        entries := []
        released := register.released ++ register.entries.reverse.map (·.2) } := by
    rw [invalidate, clear, if_neg runs]
  induction number generalizing register with
  -- The register is general, as the second time starts from the one that the first has emptied.
  | zero => exact once register runs
  | succ number ih =>
    -- After the first time the list is empty, and there is nothing left to release.
    rw [invalidates, once register runs, ih _ (by simp)]
    simp only [List.reverse_nil, List.map_nil, List.append_nil, Register.mk.injEq, and_true,
      true_and]
    omega

/-! ## Attachments -/

/-- Beginning to serve brings no attachment. -/
@[simp] theorem activate_attachments : register.activate.attachments = register.attachments := by
  unfold activate
  split <;> rfl

/-- A lookup brings no attachment. -/
@[simp] theorem get_attachments (builder : Identifier → Work ρ) (id : Identifier) :
    (register.get builder id).2.attachments = register.attachments := by
  -- A lookup goes through three functions at most, none of which writes the attachments.
  have pushed (register : Register ρ) (build : Nat) :
      (register.push id build).attachments = register.attachments := by
    unfold push
    split <;> rfl
  have built (register : Register ρ) (work : Work ρ) :
      (register.build work id).2.attachments = register.attachments := by
    unfold build
    dsimp only
    split
    · rw [pushed]
    · rfl
  have looked (register : Register ρ) (work : Work ρ) :
      (register.look work id).2.attachments = register.attachments := by
    unfold look
    split
    · rfl
    · exact built register work
  unfold get
  split
  · rfl
  · rw [looked, activate_attachments]

/-- Releasing all entries ends no attachment. -/
@[simp] theorem clear_attachments (phase : Phase) :
    (register.clear phase).2.attachments = register.attachments := by
  unfold clear
  split <;> rfl

/-- Nor does emptying the list several times. -/
@[simp] theorem invalidates_attachments (number : Nat) (register : Register ρ) :
    (register.invalidates number).attachments = register.attachments := by
  induction number generalizing register with
  | zero => rfl
  | succ number ih => rw [invalidates, ih, invalidate, clear_attachments]

end Register

end PackGate.Factory
