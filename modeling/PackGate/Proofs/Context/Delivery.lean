import PackGate.Proofs.Context.History

/-! Whom each refresh event reaches, in which order, and what its refresh returns. -/

namespace PackGate.Context

/-! ## The living -/

/-- No listener that has subscribed and died comes to life again. -/
def Mortal (events : List Event) : Prop :=
  ∀ past listener future, events = past ++ .hold listener :: future →
    (history past).isAlive listener = true ∨ listener ∉ subscribed past

/-- Those that an event which starts now is for: all subscriptions of living listeners. -/
def audience (events : List Event) : List Nat :=
  (subscribed events).filter (history events).isAlive

/-- Only subscriptions of listeners that have died are forgotten. -/
structure Remembered (context : Context) (subscribed : List Nat) : Prop where
  /-- What is remembered has been a subscription. -/
  subset : context.subscriptions ⊆ subscribed
  /-- All subscriptions of living listeners are remembered, in their order. -/
  living : context.subscriptions.filter context.isAlive = subscribed.filter context.isAlive

section Turn

variable {context after : Context} {event : Event} {subscribed : List Nat}

/-- Two lists that agree on some items agree on fewer. -/
theorem filter_agree {items others : List Nat} {before now : Nat → Bool}
    (agree : items.filter before = others.filter before)
    (fewer : ∀ item, now item = true → before item = true) :
    items.filter now = others.filter now := by
  -- Filtering by the weaker condition first makes no difference to the stronger one.
  have twice : ∀ list : List Nat, (list.filter before).filter now = list.filter now := by
    intro list
    rw [List.filter_filter]
    refine List.filter_congr fun item _ => ?_
    cases still : now item
    · rfl
    · simp [fewer item still]
  rw [← twice items, agree, twice]

/-- When nobody comes to life, those who live are remembered as they were. -/
theorem Remembered.fewer (remembered : Remembered context subscribed)
    (same : after.subscriptions = context.subscriptions)
    (fewer : ∀ listener, after.isAlive listener = true → context.isAlive listener = true) :
    Remembered after subscribed :=
  ⟨same ▸ remembered.subset, by rw [same]; exact filter_agree remembered.living fewer⟩

/-- A step brings a subscription of a living listener, or none. -/
theorem Turn.subscribes (turn : Turn context event after) :
    (∃ listener, event = .subscribe listener ∧ context.isAlive listener = true ∧
        after = { context with subscriptions := context.subscriptions ++ [listener] }) ∨
      context.subscriber? event = none := by
  -- A subscription that is turned down comes from a listener that is not alive.
  cases turn with
  | @idle event _ dead =>
    cases event with
    | subscribe listener => exact .inr (by simp [subscriber?, dead])
    | _ => exact .inr rfl
  | subscribe lives => exact .inl ⟨_, rfl, lives, rfl⟩
  | _ => exact .inr rfl

/-- Whoever begins to be kept alive lives, or was unknown, so the living are as they were. -/
theorem Remembered.hold (remembered : Remembered context subscribed) {listener : Nat}
    (mortal : context.isAlive listener = true ∨ listener ∉ subscribed) :
    Remembered { context with held := listener :: context.held } subscribed := by
  -- Of all listeners only this one can be alive now and not before.
  have alive : ∀ other, ({ context with held := listener :: context.held } : Context).isAlive
      other = (other == listener || context.isAlive other) := by
    intro other
    simp only [isAlive, List.contains_cons, Bool.or_assoc]
  rcases mortal with lives | stranger
  · -- It was alive before, so nobody has come to life.
    refine remembered.fewer rfl fun other later => ?_
    rw [alive, Bool.or_eq_true, beq_iff_eq] at later
    rcases later with rfl | before
    · exact lives
    · exact before
  · -- Nobody has known this listener before.
    have same {list : List Nat} (known : list ⊆ subscribed) :
        list.filter ({ context with held := listener :: context.held } : Context).isAlive =
          list.filter context.isAlive := by
      refine List.filter_congr fun other mem => ?_
      have apart : other ≠ listener := fun same => stranger (same ▸ known mem)
      simp [alive, apart]
    refine ⟨remembered.subset, ?_⟩
    rw [same remembered.subset, same (List.Subset.refl _), remembered.living]

/-- An event that starts forgets the dead. -/
theorem Remembered.start (remembered : Remembered context subscribed) {task : Nat}
    (obtains : context.Obtains task) : Remembered (context.start task) subscribed := by
  -- Those whom the event keeps alive are alive without it.
  have alive : (context.start task).isAlive = context.isAlive := by
    funext other
    simp only [isAlive, Context.start, publish, obtains.1, Option.any_some, Option.any_none,
      Bool.or_false, Bool.or_eq_left_iff_imp, List.contains_eq_mem, decide_eq_true_eq]
    exact fun mem => by simpa [isAlive, obtains.1] using (List.mem_filter.mp mem).2
  refine ⟨fun other mem => remembered.subset (List.mem_filter.mp mem).1, ?_⟩
  rw [alive, ← remembered.living]
  show (context.subscriptions.filter context.isAlive).filter context.isAlive = _
  rw [List.filter_filter]
  simp

/-- Every step remembers the subscriptions of the living, as long as nobody comes to life again. -/
theorem Remembered.turn (remembered : Remembered context subscribed)
    (turn : Turn context event after)
    (mortal : ∀ listener, event = .hold listener →
      context.isAlive listener = true ∨ listener ∉ subscribed) :
    Remembered after (subscribed ++ (context.subscriber? event).toList) := by
  rcases turn.subscribes with ⟨listener, rfl, lives, rfl⟩ | none
  · -- The new subscription comes last, in what is remembered as in what has happened.
    rw [subscriber?, if_pos lives, Option.toList_some]
    refine ⟨fun other mem => ?_, ?_⟩
    · rcases List.mem_append.mp mem with before | new
      · exact List.mem_append_left _ (remembered.subset before)
      · exact List.mem_append_right _ new
    · show (context.subscriptions ++ [listener]).filter context.isAlive =
        (subscribed ++ [listener]).filter context.isAlive
      rw [List.filter_append, List.filter_append, remembered.living]
  · rw [none, Option.toList_none, List.append_nil]
    -- Every other turn leaves the subscriptions alone, but for the start of an event.
    cases turn with
    | hold listener => exact remembered.hold (mortal listener rfl)
    | drop listener =>
      refine remembered.fewer rfl fun other => ?_
      simp only [isAlive, Bool.or_eq_true, List.contains_eq_mem, decide_eq_true_eq]
      exact Or.imp_left fun still => (List.mem_filter.mp still).1
    | subscribe lives => simp [subscriber?, lives] at none
    | start obtains => exact remembered.start obtains
    | call here => exact remembered.fewer rfl fun other => by simp [isAlive, call, here]
    | finish here => exact remembered.fewer rfl fun other => by simp [isAlive, finish]; exact .inl
    | answer here => exact remembered.fewer rfl fun other => by simp [isAlive, here]
    | halt here => exact remembered.fewer rfl fun other => by simp [isAlive]; exact .inl
    | _ => exact remembered.fewer rfl fun _ lives => lives

end Turn

/-- Over every history without a return from the dead, the subscriptions of the living are kept. -/
theorem remembered_of_mortal (events : List Event) (mortal : Mortal events) :
    Remembered (history events) (subscribed events) := by
  induction events using List.reverseRecOn with
  -- The induction is on the last event, with which nobody comes to life again either.
  | nil => exact ⟨List.nil_subset _, rfl⟩
  | append_singleton past event ih =>
    have remembered := ih fun before listener future same =>
      mortal before listener (future ++ [event]) (by simp [same])
    rw [history_concat, subscribed_concat]
    refine remembered.turn (step_turn _ event) ?_
    rintro listener rfl
    exact mortal past listener [] rfl

/-! ## One event -/

/-- Callbacks are numbered in order, and no event has been reached that has not started. -/
structure Serial (context : Context) : Prop where
  /-- All callbacks of one event come before those of the next. -/
  ordered : context.calls.Pairwise fun early late => early.epoch ≤ late.epoch
  /-- No callback is of an event yet to come. -/
  bounded : ∀ call ∈ context.calls, call.epoch ≤ context.epoch

/-- A refresh is the one that delivers the event on its way. -/
def Delivers (context : Context) (task : Nat) : Prop :=
  ∃ delivery, context.delivery = some delivery ∧ delivery.task = task

/-- An event is over: it has come to its end or been given up, or another one has started. -/
def Over (context : Context) (epoch : Nat) : Prop :=
  epoch < context.epoch ∨ epoch = context.epoch ∧ context.delivery = none

/-- What has become of an event for an audience that a refresh has started. -/
inductive Fate (context : Context) (epoch task : Nat) (audience : List Nat) (aborted : Prop) :
    Prop where
  /-- The event is on its way, and the first of its audience have been called. -/
  | underway {delivery : Delivery} (here : context.delivery = some delivery)
      (mine : delivery.task = task) (live : delivery.live = audience)
      (current : epoch = context.epoch)
      (called : context.heard epoch = audience.take delivery.called) :
      Fate context epoch task audience aborted
  /-- The event has reached its whole audience, and its refresh has returned their number. -/
  | complete (ended : context.Over epoch) (all : context.heard epoch = audience)
      (returned : (task, audience.length) ∈ context.completed) :
      Fate context epoch task audience aborted
  /-- The refresh has been given up after a part of the audience. -/
  | cut (ended : context.Over epoch) (part : context.heard epoch <+: audience)
      (gaveUp : aborted) : Fate context epoch task audience aborted

section Event

variable {context after : Context} {event : Event}

/-- Every step keeps callbacks in order. -/
theorem Serial.turn (serial : Serial context) (turn : Turn context event after) :
    Serial after := by
  cases turn with
  | start =>
    -- A new event has called nobody yet.
    exact ⟨serial.ordered, fun call mem => Nat.le_succ_of_le (serial.bounded call mem)⟩
  | call =>
    -- The new callback is of the latest event.
    refine ⟨List.pairwise_append.mpr ⟨serial.ordered, List.pairwise_singleton _ _, ?_⟩, ?_⟩
    · intro early mem late new
      rw [List.mem_singleton.mp new]
      exact serial.bounded early mem
    · intro call mem
      rcases List.mem_append.mp mem with old | new
      · exact serial.bounded call old
      · rw [List.mem_singleton.mp new]
        exact Nat.le_refl _
  | _ => exact ⟨serial.ordered, serial.bounded⟩

/-- The callbacks of an event after one more callback. -/
theorem heard_call (context : Context) (delivery : Delivery) (listener epoch : Nat) :
    (context.call delivery listener).heard epoch =
      context.heard epoch ++ if context.epoch = epoch then [listener] else [] := by
  -- The new callback counts for its own event, and for no other.
  simp only [heard, call, List.filter_append, List.map_append]
  split <;> simp [*]

/-- An event that is over stays so, and calls nobody any more. -/
theorem Over.turn {epoch : Nat} (ended : context.Over epoch) (turn : Turn context event after) :
    after.Over epoch ∧ after.heard epoch = context.heard epoch := by
  cases turn with
  | start =>
    -- The next event begins, so this one is behind it.
    refine ⟨.inl ?_, rfl⟩
    rcases ended with earlier | ⟨last, _⟩
    · exact Nat.lt_succ_of_lt earlier
    · exact last ▸ Nat.lt_succ_self _
  | @call delivery listener here =>
    -- The event that calls is the latest one, and it is on its way.
    rcases ended with earlier | ⟨_, idle⟩
    · rw [heard_call, if_neg (Nat.ne_of_gt earlier), List.append_nil]
      exact ⟨.inl earlier, rfl⟩
    · rw [here] at idle
      cases idle
  | finish => exact ⟨ended.imp_right fun last => ⟨last.1, rfl⟩, rfl⟩
  | answer here =>
    rcases ended with earlier | ⟨_, idle⟩
    · exact ⟨.inl earlier, rfl⟩
    · rw [here] at idle
      cases idle
  | halt => exact ⟨ended.imp_right fun last => ⟨last.1, rfl⟩, rfl⟩
  | _ => exact ⟨ended, rfl⟩

/-- What a refresh has returned stays so. -/
theorem Turn.completed (turn : Turn context event after) :
    context.completed ⊆ after.completed := by
  cases turn with
  | finish => exact List.subset_append_left _ _
  | _ => exact List.Subset.refl _

/-- One step brings an event one callback further, or to its end, or it is given up. -/
theorem Fate.turn {epoch task : Nat} {audience : List Nat} {aborted : Prop}
    (fate : Fate context epoch task audience aborted) (turn : Turn context event after)
    {later : Prop} (given : aborted ∨ event = .abort task ∧ context.Delivers task → later) :
    Fate after epoch task audience later := by
  cases fate with
  | complete ended all returned =>
    -- What is over calls nobody, so its callbacks are the same.
    obtain ⟨still, same⟩ := ended.turn turn
    exact .complete still (same.trans all) (turn.completed returned)
  | cut ended part aborted =>
    obtain ⟨still, same⟩ := ended.turn turn
    exact .cut still (same ▸ part) (given (.inl aborted))
  | @underway delivery here mine live current called =>
    cases turn with
    -- No other event starts while this one is on its way.
    | start obtains => simp [obtains.1] at here
    | @call known listener there _ next =>
      -- The next one of the audience is called.
      rw [here] at there
      cases there
      refine .underway rfl mine live current ?_
      rw [heard_call, if_pos current.symm, called, ← live, List.take_add_one, next]
      rfl
    | @finish known there _ done =>
      rw [here] at there
      cases there
      -- The event ends when there is nobody left to call, so the whole audience has been called.
      have all : context.heard epoch = audience := by
        rw [called, ← live, List.take_of_length_le done]
      refine .complete (.inr ⟨current, rfl⟩) all ?_
      rw [← mine, ← live]
      exact List.mem_append_right _ (List.mem_singleton_self _)
    | @answer known there =>
      rw [here] at there
      cases there
      exact .underway rfl mine live current called
    | @halt known there =>
      rw [here] at there
      cases there
      -- Those who have been called until now are the first ones of the audience.
      refine .cut (.inr ⟨current, rfl⟩) ?_ (given (.inr ⟨by rw [mine], delivery, here, mine⟩))
      show context.heard epoch <+: audience
      rw [called]
      exact List.take_prefix _ _
    | _ => exact .underway here mine live current called

end Event

/-! ## Every history -/

/-- At some moment of a history a refresh starts its event. -/
structure Starts (events past : List Event) (task : Nat) (future : List Event) : Prop where
  /-- The moment cuts the history in two. -/
  cuts : events = past ++ .proceed task :: future
  /-- It is the turn of the refresh. -/
  obtains : (history past).Obtains task

/-- A start is one of every longer history. -/
theorem Starts.concat {events past future : List Event} {task : Nat}
    (starts : Starts events past task future) (event : Event) :
    Starts (events ++ [event]) past task (future ++ [event]) :=
  ⟨by simp [starts.cuts], starts.obtains⟩

/-- Over every history callbacks are in order. -/
theorem serial_history (events : List Event) : Serial (history events) := by
  induction events using List.reverseRecOn with
  -- The induction is on the last event.
  | nil => exact ⟨.nil, by simp [history, run]⟩
  | append_singleton past event ih =>
    rw [history_concat]
    exact ih.turn (step_turn _ event)

/-- A refresh that has started its event is given up while the event is on its way. -/
def Interrupted (past : List Event) (task : Nat) (future : List Event) : Prop :=
  ∃ early late, future = early ++ .abort task :: late ∧
    (history (past ++ .proceed task :: early)).Delivers task

/-- What becomes of an event, whatever happens after its start. -/
theorem fate_of_start {past : List Event} {task : Nat} (distinct : (requests past).Nodup)
    (mortal : Mortal past) (obtains : (history past).Obtains task) (future : List Event) :
    Fate (history (past ++ .proceed task :: future)) ((started past).length + 1) task
      (audience past) (Interrupted past task future) := by
  obtain ⟨queued, _⟩ := published_of_distinct past distinct
  -- The induction is on the last event after the start, which reaches nobody by itself.
  induction future using List.reverseRecOn with
  | nil =>
    rw [history_concat, step_obtains obtains, ← queued.epoch]
    refine .underway rfl rfl (remembered_of_mortal past mortal).living rfl ?_
    show (history past).heard _ = _
    -- No callback has the number of an event that has only just started.
    rw [heard, List.filter_eq_nil_iff.mpr, List.map_nil, List.take_zero]
    intro call mem
    have bounded := (serial_history past).bounded call mem
    simp only [decide_eq_true_eq]
    omega
  | append_singleton future event ih =>
    rw [← List.cons_append, ← List.append_assoc, history_concat]
    refine ih.turn (step_turn _ event) fun given => ?_
    rcases given with ⟨early, late, rfl, before⟩ | ⟨rfl, now⟩
    · exact ⟨early, late ++ [event], by simp, before⟩
    · exact ⟨future, [], rfl, now⟩

/-- Where callbacks and the numbers that refreshes return come from. -/
structure Traced (events : List Event) : Prop where
  /-- The event on its way has been started, for its audience then. -/
  underway : ∀ delivery, (history events).delivery = some delivery →
    ∃ past future, Starts events past delivery.task future ∧
      (history events).epoch = (started past).length + 1 ∧ delivery.live = audience past
  /-- Every callback is one of an event that has been started, to one of its audience. -/
  called : ∀ call ∈ (history events).calls,
    ∃ past task future, Starts events past task future ∧
      call.epoch = (started past).length + 1 ∧ call.listener ∈ audience past
  /-- What a refresh returns is the number of callbacks of the event that it has started. -/
  returned : ∀ task number, (task, number) ∈ (history events).completed →
    ∃ past future, Starts events past task future ∧
      (history events).Over ((started past).length + 1) ∧
        number = ((history events).heard ((started past).length + 1)).length

/-- A history is well formed: refreshes are told apart, and nobody returns from the dead. -/
structure Regular (events : List Event) : Prop where
  /-- No refresh is asked for twice. -/
  distinct : (requests events).Nodup
  /-- No listener that has subscribed and died comes to life again. -/
  mortal : Mortal events

/-- What has happened by some moment of a well-formed history is well formed. -/
theorem Regular.past {past future : List Event} (regular : Regular (past ++ future)) :
    Regular past := by
  have distinct := regular.distinct
  rw [requests, List.filterMap_append] at distinct
  exact ⟨(List.nodup_append.mp distinct).1, fun before listener later same =>
    regular.mortal before listener (later ++ future) (by simp [same])⟩

section Step

variable {before : List Event} {event : Event} {after : Context}

/-- The event on its way has been started, also after one more step. -/
theorem Traced.underway_turn (traced : Traced before) (regular : Regular before)
    (turn : Turn (history before) event after) :
    ∀ delivery, after.delivery = some delivery →
      ∃ past future, Starts (before ++ [event]) past delivery.task future ∧
        after.epoch = (started past).length + 1 ∧ delivery.live = audience past := by
  -- A start that the past knew is one of the longer history.
  have keeps : ∀ delivery, (history before).delivery = some delivery →
      ∃ past future, Starts (before ++ [event]) past delivery.task future ∧
        (history before).epoch = (started past).length + 1 ∧ delivery.live = audience past := by
    intro delivery here
    obtain ⟨past, future, starts, epoch, live⟩ := traced.underway delivery here
    exact ⟨past, future ++ [event], starts.concat event, epoch, live⟩
  intro delivery there
  cases turn with
  | @start task obtains =>
    cases there
    -- This is the start itself: its number and its audience are what the past makes them.
    obtain ⟨queued, _⟩ := published_of_distinct before regular.distinct
    exact ⟨before, [], ⟨rfl, obtains⟩, congrArg (· + 1) queued.epoch,
      (remembered_of_mortal before regular.mortal).living⟩
  | call here =>
    cases there
    have kept := keeps _ here
    exact kept
  | answer here =>
    cases there
    have kept := keeps _ here
    exact kept
  | finish => cases there
  | halt => cases there
  | _ => exact keeps delivery there

/-- Every callback is one of an event that has been started, also after one more step. -/
theorem Traced.called_turn (traced : Traced before) (turn : Turn (history before) event after) :
    ∀ call ∈ after.calls, ∃ past task future, Starts (before ++ [event]) past task future ∧
      call.epoch = (started past).length + 1 ∧ call.listener ∈ audience past := by
  -- The same holds for the callbacks that there were before.
  have keeps : ∀ call ∈ (history before).calls,
      ∃ past task future, Starts (before ++ [event]) past task future ∧
        call.epoch = (started past).length + 1 ∧ call.listener ∈ audience past := by
    intro call mem
    obtain ⟨past, task, future, starts, rest⟩ := traced.called call mem
    exact ⟨past, task, future ++ [event], starts.concat event, rest⟩
  cases turn with
  | @call delivery listener here _ next =>
    intro call mem
    rcases List.mem_append.mp mem with old | new
    · exact keeps call old
    · -- The new callback is of the event on its way.
      rw [List.mem_singleton.mp new]
      obtain ⟨past, future, starts, epoch, live⟩ := traced.underway delivery here
      exact ⟨past, delivery.task, future ++ [_], starts.concat _, epoch,
        live ▸ List.mem_of_getElem? next⟩
  | _ => exact keeps

/-- A refresh that ends returns the number of callbacks of its event. -/
theorem Traced.returned_turn (traced : Traced before) (regular : Regular before)
    (turn : Turn (history before) event after) :
    ∀ task number, (task, number) ∈ after.completed →
      ∃ past future, Starts (before ++ [event]) past task future ∧
        after.Over ((started past).length + 1) ∧
          number = (after.heard ((started past).length + 1)).length := by
  -- What has been returned counts an event that is over, and that is heard no more.
  have keeps : ∀ task number, (task, number) ∈ (history before).completed →
      ∃ past future, Starts (before ++ [event]) past task future ∧
        after.Over ((started past).length + 1) ∧
          number = (after.heard ((started past).length + 1)).length := by
    intro task number mem
    obtain ⟨past, future, starts, ended, same⟩ := traced.returned task number mem
    obtain ⟨still, heard⟩ := ended.turn turn
    exact ⟨past, future ++ [event], starts.concat event, still, by rw [heard]; exact same⟩
  cases turn with
  | @finish delivery here _ done =>
    intro task number mem
    rcases List.mem_append.mp mem with old | new
    · exact keeps task number old
    · cases List.mem_singleton.mp new
      obtain ⟨past, future, starts, epoch, live⟩ := traced.underway delivery here
      refine ⟨past, future ++ [_], starts.concat _, .inr ⟨epoch.symm, rfl⟩, ?_⟩
      show delivery.live.length = ((history before).heard _).length
      -- The event has reached all of its audience, and it is not over yet.
      have regular : Regular past := Regular.past (starts.cuts ▸ regular)
      have fate := fate_of_start regular.distinct regular.mortal starts.obtains future
      rw [← starts.cuts] at fate
      have current : ¬(history before).Over ((started past).length + 1) := by
        simp [Over, epoch, here]
      cases fate with
      | underway there _ _ _ called =>
        rw [here] at there
        cases there
        rw [called, ← live, List.take_of_length_le done]
      | complete ended => exact absurd ended current
      | cut ended => exact absurd ended current
  | _ => exact keeps

end Step

/-- Over every history callbacks and returned numbers come from events that have been started. -/
theorem traced_of_regular (events : List Event) (regular : Regular events) : Traced events := by
  induction events using List.reverseRecOn with
  | nil => exact ⟨by simp [history, run], by simp [history, run], by simp [history, run]⟩
  | append_singleton before event ih =>
    have traced := ih regular.past
    have turn := step_turn (history before) event
    constructor <;> rw [history_concat]
    · exact traced.underway_turn regular.past turn
    · exact traced.called_turn turn
    · exact traced.returned_turn regular.past turn

end PackGate.Context
