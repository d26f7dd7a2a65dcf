import Mathlib.Data.List.Induction
import Mathlib.Data.List.Nodup
import PackGate.Proofs.Context.Turn

/-! Refreshes from their request to their end: the queue, the events in their order, the phase. -/

namespace PackGate.Context

/-! ## What a run yields -/

/-- The source after some events, from its creation on. -/
def history (events : List Event) : Context :=
  ({} : Context).run events

/-- What the events of a run yield, one after the other. -/
def gather (pick : Context → Event → Option Nat) (context : Context) : List Event → List Nat
  | [] => []
  | event :: rest => (pick context event).toList ++ gather pick (context.step event) rest

instance (context : Context) (task : Nat) : Decidable (context.Obtains task) :=
  inferInstanceAs (Decidable (_ ∧ _))

/-- The refresh that starts its event with this step. -/
def starter? (context : Context) : Event → Option Nat
  | .proceed task => if context.Obtains task then some task else none
  | .hold _ | .drop _ | .subscribe _ | .request _ | .answer _ | .abort _ => none

/-- The living listener that subscribes with this step. -/
def subscriber? (context : Context) : Event → Option Nat
  | .subscribe listener => if context.isAlive listener then some listener else none
  | .hold _ | .drop _ | .request _ | .proceed _ | .answer _ | .abort _ => none

/-- The refresh that is asked for. -/
def Event.request? : Event → Option Nat
  | .request task => some task
  | .hold _ | .drop _ | .subscribe _ | .proceed _ | .answer _ | .abort _ => none

/-- The refreshes that have started their event, in this order. -/
def started (events : List Event) : List Nat :=
  gather starter? {} events

/-- The listeners of all subscriptions, in this order. -/
def subscribed (events : List Event) : List Nat :=
  gather subscriber? {} events

/-- The refreshes that have been asked for, in this order. -/
def requests (events : List Event) : List Nat :=
  events.filterMap Event.request?

/-- The listeners that an event has called, in this order. -/
def heard (context : Context) (epoch : Nat) : List Nat :=
  (context.calls.filter (·.epoch = epoch)).map (·.listener)

/-- A history goes on from where it was. -/
theorem history_append (past future : List Event) :
    history (past ++ future) = (history past).run future :=
  List.foldl_append

/-- The last event of a history is one more step. -/
theorem history_concat (past : List Event) (event : Event) :
    history (past ++ [event]) = (history past).step event :=
  List.foldl_append

/-- A run yields what its parts yield. -/
theorem gather_append (pick : Context → Event → Option Nat) (context : Context)
    (past future : List Event) :
    gather pick context (past ++ future) =
      gather pick context past ++ gather pick (context.run past) future := by
  -- The induction is on the earlier part, which moves the state that the later one starts from.
  induction past generalizing context with
  | nil => rfl
  | cons event rest ih =>
    rw [List.cons_append, gather, ih, gather, List.append_assoc]
    rfl

/-- A longer run yields more. -/
theorem gather_mono {pick : Context → Event → Option Nat} {context : Context}
    {past events : List Event} (earlier : past <+: events) :
    gather pick context past <+: gather pick context events := by
  -- A longer run is the earlier one and something behind it.
  obtain ⟨future, rfl⟩ := earlier
  rw [gather_append]
  exact List.prefix_append _ _

/-- One more step may start one more event. -/
theorem started_concat (past : List Event) (event : Event) :
    started (past ++ [event]) = started past ++ ((history past).starter? event).toList := by
  rw [started, gather_append, gather, gather, List.append_nil]
  rfl

/-- One more step may bring one more subscription. -/
theorem subscribed_concat (past : List Event) (event : Event) :
    subscribed (past ++ [event]) =
      subscribed past ++ ((history past).subscriber? event).toList := by
  rw [subscribed, gather_append, gather, gather, List.append_nil]
  rfl

/-- One more step may bring one more request. -/
theorem requests_concat (past : List Event) (event : Event) :
    requests (past ++ [event]) = requests past ++ event.request?.toList := by
  -- A request is read off the event alone, so each kind of event tells its own.
  rw [requests, List.filterMap_append]
  cases event <;> rfl

/-- While an event is on its way no other one starts. -/
theorem starter?_of_delivery {context : Context} {delivery : Delivery}
    (here : context.delivery = some delivery) (event : Event) :
    context.starter? event = none := by
  -- Only a refresh that runs could start an event, and it is nobody's turn.
  cases event with
  | proceed task => exact if_neg fun obtains => by simp [obtains.1] at here
  | _ => rfl

/-- A step starts an event, or it does not change the number of events. -/
theorem Turn.starts {context after : Context} {event : Event} (turn : Turn context event after) :
    (∃ task, event = .proceed task ∧ context.Obtains task ∧ after = context.start task) ∨
      context.starter? event = none ∧ after.epoch = context.epoch := by
  -- Two turns belong to a run of the refresh whose event is on its way, and start no other.
  cases turn with
  | @idle event waits =>
    refine .inr ⟨?_, rfl⟩
    cases event with
    | proceed task => exact if_neg (waits task rfl)
    | _ => rfl
  | start obtains => exact .inl ⟨_, rfl, obtains, rfl⟩
  | call here => exact .inr ⟨starter?_of_delivery here _, rfl⟩
  | finish here => exact .inr ⟨starter?_of_delivery here _, rfl⟩
  | _ => exact .inr ⟨rfl, rfl⟩

/-! ## The queue -/

/-- Every refresh has a place of its own: in the queue, or among those that have started. -/
structure Queued (context : Context) (started requests : List Nat) : Prop where
  /-- Events are numbered as they start. -/
  epoch : context.epoch = started.length
  /-- Nobody is in the queue twice, and nobody starts twice. -/
  distinct : (context.waiting ++ started).Nodup
  /-- Only those that have asked are in the queue or start. -/
  asked : context.waiting ++ started ⊆ requests

section Turn

variable {context after : Context} {event : Event} {started requests : List Nat}

/-- The refresh whose turn it is moves from the queue to those that have started. -/
theorem Queued.start (queued : Queued context started requests) {task : Nat}
    (obtains : context.Obtains task) :
    Queued (context.start task) (started ++ [task]) requests := by
  -- Whoever starts was at the head of the queue.
  obtain ⟨rest, first⟩ := List.head?_eq_some_iff.mp obtains.2
  -- The same refreshes are there, in another order.
  have moved : ((context.start task).waiting ++ (started ++ [task])).Perm
      (context.waiting ++ started) := by
    have left : (context.start task).waiting = rest := by
      show context.waiting.erase task = rest
      rw [first, List.erase_cons_head]
    rw [left, first, ← List.append_assoc]
    exact List.perm_append_singleton task (rest ++ started)
  refine ⟨?_, moved.nodup_iff.mpr queued.distinct, List.Subset.trans moved.subset queued.asked⟩
  rw [List.length_append, ← queued.epoch]
  rfl

/-- Every step keeps refreshes at places of their own, if nobody asks twice. -/
theorem Queued.turn (queued : Queued context started requests) (turn : Turn context event after)
    (fresh : ∀ task, event = .request task → task ∉ requests) :
    Queued after (started ++ (context.starter? event).toList)
      (requests ++ event.request?.toList) := by
  rcases turn.starts with ⟨task, rfl, obtains, rfl⟩ | ⟨none, epoch⟩
  · obtain ⟨epoch, distinct, asked⟩ := queued.start obtains
    simp only [Context.starter?, if_pos obtains, Event.request?, Option.toList_some,
      Option.toList_none, List.append_nil]
    exact ⟨epoch, distinct, asked⟩
  · rw [none, Option.toList_none, List.append_nil]
    -- Somebody may leave the queue without starting.
    have leaves (task : Nat) :
        List.Sublist (context.waiting.erase task ++ started) (context.waiting ++ started) :=
      List.erase_sublist.append_right _
    have asked : context.waiting ++ started ⊆ requests ++ event.request?.toList :=
      List.Subset.trans queued.asked (List.subset_append_left _ _)
    cases turn with
    | @request task =>
      -- The refresh that asks is in nobody's place.
      have moved : (context.waiting ++ [task] ++ started).Perm
          (task :: (context.waiting ++ started)) := by
        rw [List.append_assoc]
        exact List.perm_middle
      have absent : task ∉ context.waiting ++ started :=
        fun mem => fresh task rfl (queued.asked mem)
      refine ⟨queued.epoch, moved.nodup_iff.mpr (List.nodup_cons.mpr ⟨absent, queued.distinct⟩), ?_⟩
      refine List.Subset.trans moved.subset (List.cons_subset.mpr ⟨?_, asked⟩)
      exact List.mem_append_right _ (List.mem_singleton_self task)
    -- A start is excluded here, since this step starts nothing.
    | @start task obtains =>
      simp [starter?, obtains] at none
    | @leave task =>
      exact ⟨queued.epoch, queued.distinct.sublist (leaves task),
        List.Subset.trans (leaves task).subset asked⟩
    | @halt delivery =>
      exact ⟨queued.epoch, queued.distinct.sublist (leaves delivery.task),
        List.Subset.trans (leaves delivery.task).subset asked⟩
    | _ => exact ⟨queued.epoch, queued.distinct, asked⟩

/-! ## The phase -/

/-- The published phase tells whether the last event has run to its end. -/
structure Published (context : Context) (started : List Nat) : Prop where
  /-- The event on its way is the last one that has started, and has not come to its end. -/
  underway : ∀ delivery, context.delivery = some delivery →
    started.getLast? = some delivery.task ∧ context.phase = .refreshed ∧
      delivery.task ∉ context.completed.map (·.1)
  /-- Only refreshes that have started come to their end. -/
  ended : context.completed.map (·.1) ⊆ started
  /-- No refresh comes to its end twice. -/
  once : (context.completed.map (·.1)).Nodup
  /-- Without an event on its way, all is well if the last one has come to its end. -/
  settled : context.delivery = none → (context.phase = .active ↔
    ∀ task, started.getLast? = some task → task ∈ context.completed.map (·.1))

/-- Every step keeps phase and events in agreement. -/
theorem Published.turn (published : Published context started)
    (queued : Queued context started requests) (turn : Turn context event after) :
    Published after (started ++ (context.starter? event).toList) := by
  rcases turn.starts with ⟨task, rfl, obtains, rfl⟩ | ⟨none, _⟩
  · -- A refresh from the queue has not come to its end.
    -- The refresh comes from the queue, so it has not come to its end before.
    have waits : task ∈ context.waiting := List.mem_of_mem_head? obtains.2
    have unended : task ∉ context.completed.map (·.1) := fun mem =>
      (List.nodup_append.mp queued.distinct).2.2 task waits task (published.ended mem) rfl
    rw [Context.starter?, if_pos obtains, Option.toList_some]
    refine ⟨?_, List.Subset.trans published.ended (List.subset_append_left _ _), published.once,
      by simp [Context.start]⟩
    rintro delivery here
    cases here
    exact ⟨List.getLast?_concat, rfl, unended⟩
  · rw [none, Option.toList_none, List.append_nil]
    cases turn with
    | start obtains => simp [starter?, obtains] at none
    -- One more callback changes neither the refresh of the event nor the phase.
    | @call delivery _ here =>
      refine ⟨?_, published.ended, published.once, by simp [Context.call]⟩
      rintro later there
      cases there
      exact published.underway delivery here
    | @finish delivery here =>
      -- The refresh of the last event is the one that comes to its end here.
      obtain ⟨last, _, unended⟩ := published.underway delivery here
      have ended : (context.finish delivery).completed.map (·.1) =
          context.completed.map (·.1) ++ [delivery.task] := by simp [Context.finish]
      refine ⟨by simp [Context.finish], ?_, ?_, fun _ => iff_of_true rfl fun task same => ?_⟩
      · rw [ended]
        refine List.append_subset.mpr ⟨published.ended, ?_⟩
        exact List.cons_subset.mpr ⟨List.mem_of_getLast? last, List.nil_subset _⟩
      · rw [ended, ← List.concat_eq_append]
        exact published.once.concat unended
      · rw [last] at same
        cases same
        rw [ended]
        exact List.mem_append_right _ (List.mem_singleton_self _)
    | @answer delivery here =>
      refine ⟨?_, published.ended, published.once, by simp⟩
      rintro later there
      cases there
      exact published.underway delivery here
    | @halt delivery here =>
      -- The event has been given up midway, so its refresh does not come to its end.
      obtain ⟨last, phase, unended⟩ := published.underway delivery here
      refine ⟨by simp, published.ended, published.once,
        fun _ => iff_of_false ?_ fun ended => ?_⟩
      · simp [phase]
      · exact unended (ended _ last)
    | _ => exact ⟨published.underway, published.ended, published.once, published.settled⟩

/-- What a refresh returns is what it has come to its end with. -/
theorem Published.notified (published : Published context started) {task number : Nat} :
    context.notified? task = some number ↔ (task, number) ∈ context.completed := by
  -- A lookup finds the first entry of a refresh, and there is no second one.
  rw [notified?, List.lookup_eq_some_iff]
  constructor
  · rintro ⟨earlier, later, split, _⟩
    exact split ▸ List.mem_append_right _ List.mem_cons_self
  · intro mem
    obtain ⟨earlier, later, split⟩ := List.append_of_mem mem
    refine ⟨earlier, later, split, fun other before => ?_⟩
    have once := published.once
    rw [split, List.map_append, List.nodup_append] at once
    have apart := once.2.2 other.1 (List.mem_map_of_mem before) task (by simp)
    simpa using apart.symm

end Turn

/-- Over every history in which refreshes are told apart, queue, events and phase agree. -/
theorem published_of_distinct (events : List Event) (distinct : (requests events).Nodup) :
    Queued (history events) (started events) (requests events) ∧
      Published (history events) (started events) := by
  -- The induction is on the last event, which a step of both invariants covers.
  induction events using List.reverseRecOn with
  | nil =>
    refine ⟨⟨rfl, List.nodup_nil, List.nil_subset _⟩, ⟨?_, List.nil_subset _, List.nodup_nil, ?_⟩⟩
    · intro delivery here
      cases here
    · exact fun _ => iff_of_true rfl fun task last => by cases last
  | append_singleton past event ih =>
    rw [requests_concat] at distinct
    obtain ⟨earlier, _, apart⟩ := List.nodup_append.mp distinct
    obtain ⟨queued, published⟩ := ih earlier
    have turn := step_turn (history past) event
    rw [history_concat, started_concat, requests_concat]
    refine ⟨queued.turn turn ?_, published.turn queued turn⟩
    rintro task rfl mem
    exact apart task mem task (List.mem_singleton_self task) rfl

end PackGate.Context
