import PackGate.Proofs.Context.Delivery
import PackGate.Proofs.Context.Withdrawal

/-! What refreshes, listeners and watchers can rely on, whatever happens in which order. -/

namespace PackGate.Context

/-- Time and again the callback of a refresh ends, and the refresh runs. -/
def drive (task : Nat) : Nat → List Event
  | 0 => []
  | rounds + 1 => .answer task :: .proceed task :: drive task rounds

/-- An event on its way comes to its end when its callbacks end and its refresh runs. -/
theorem run_drive {context : Context} {delivery : Delivery}
    (here : context.delivery = some delivery) :
    ∃ rounds, (context.run (drive delivery.task rounds)).delivery = none ∧
      (delivery.task, delivery.live.length) ∈
        (context.run (drive delivery.task rounds)).completed := by
  -- The induction is on how many listeners the event has not reached.
  generalize left : delivery.live.length - delivery.called = remaining
  induction remaining generalizing context delivery with
  | zero =>
    -- The last callback ends, and then there is no listener left to call.
    have done : delivery.live[delivery.called]? = none := List.getElem?_eq_none (by omega)
    refine ⟨1, ?_⟩
    simp [run, drive, step, answer, proceed, here, done, finish]
  | succ remaining ih =>
    -- One round ends the callback that runs and starts the next one, so one listener less is left.
    have within : delivery.called < delivery.live.length := by omega
    have next := List.getElem?_eq_getElem within
    have answered : context.step (.answer delivery.task) =
        { context with delivery := some { delivery with inside := false } } := by
      simp [step, answer, here]
    have called : (context.step (.answer delivery.task)).step (.proceed delivery.task) =
        (context.step (.answer delivery.task)).call { delivery with inside := false }
          delivery.live[delivery.called] := by
      rw [answered]
      simp [step, proceed, next]
    obtain ⟨rounds, ended⟩ := ih (congrArg Context.delivery called)
      (show delivery.live.length - (delivery.called + 1) = remaining by omega)
    exact ⟨rounds + 1, ended⟩

/-- What refreshes, listeners and watchers can rely on after some events. -/
structure Orderly (events : List Event) : Prop where
  /-- All callbacks of one event come before those of the next. -/
  serial : (history events).calls.Pairwise fun early late => early.epoch ≤ late.epoch
  /-- The number of events is that of the refreshes that have started one, each of them once. -/
  counted : (history events).epoch = (started events).length ∧ (started events).Nodup
  /-- Every callback has the number of an event that was started, and reaches one it was for. -/
  called : ∀ call ∈ (history events).calls, ∃ past task future,
    Starts events past task future ∧ call.epoch = (started past).length + 1 ∧
      call.listener ∈ audience past
  /-- An event calls those it is for in their order, and all of them unless it is interrupted. -/
  reached : ∀ past task future, Starts events past task future →
    (history events).heard ((started past).length + 1) <+: audience past ∧
      (Interrupted past task future ∨ (history events).Delivers task ∨
        (history events).heard ((started past).length + 1) = audience past ∧
          (history events).notified? task = some (audience past).length)
  /-- A new listener is called by no event that has started, and by the later ones it lives to. -/
  joined : ∀ before listener, before ++ [.subscribe listener] <+: events →
    listener ∉ subscribed before → (history before).isAlive listener = true →
      (∀ call ∈ (history events).calls, call.listener = listener →
        (history before).epoch < call.epoch) ∧
      ∀ past task future, Starts events past task future →
        before ++ [.subscribe listener] <+: past → (history past).isAlive listener = true →
          listener ∈ audience past
  /-- A refresh returns the number of callbacks of the event that it has started. -/
  returned : ∀ task number, (history events).notified? task = some number →
    ∃ past future, Starts events past task future ∧
      number = ((history events).heard ((started past).length + 1)).length
  /-- A refresh that is given up before its turn has no effect: as if it had not been asked for. -/
  withdrawn : ∀ past task middle future,
    events = past ++ .request task :: (middle ++ .abort task :: future) →
      .abort task ∉ middle → task ∉ started (past ++ .request task :: middle) →
        ∃ kept, kept.Sublist middle ∧ kept.filter (!·.isRun) = middle.filter (!·.isRun) ∧
          history events = history (past ++ (kept ++ future))
  /-- The phase is active exactly when no event is on its way and the last one came to its end. -/
  active : (history events).phase = .active ↔
    (history events).delivery = none ∧
      ∀ task, (started events).getLast? = some task → ((history events).notified? task).isSome
  /-- An event on its way comes to its end when its callbacks end and its refresh runs. -/
  ends : ∀ delivery, (history events).delivery = some delivery →
    ∃ rounds, (history (events ++ drive delivery.task rounds)).delivery = none ∧
      (history (events ++ drive delivery.task rounds)).notified? delivery.task =
        some delivery.live.length

section Parts

variable {events : List Event}

/-- A new listener is called by no event that has started before it subscribes. -/
theorem Traced.stranger (traced : Traced events) (regular : Regular events) {before : List Event}
    (earlier : before <+: events) {listener : Nat} (stranger : listener ∉ subscribed before) :
    ∀ call ∈ (history events).calls, call.listener = listener →
      (history before).epoch < call.epoch := by
  rintro call mem rfl
  obtain ⟨past, task, future, starts, epoch, reached⟩ := traced.called call mem
  have start : past <+: events := starts.cuts ▸ List.prefix_append _ _
  have known : call.listener ∈ subscribed past := (List.mem_filter.mp reached).1
  -- Both moments lie in one history, so one of them comes first.
  rcases List.prefix_or_prefix_of_prefix start earlier with sooner | later
  · -- An event from before would know the listener, which has not subscribed by then.
    exact absurd ((gather_mono sooner).subset known) stranger
  · -- The number of an event is that of the events started so far, which only goes up.
    obtain ⟨rest, rfl⟩ := earlier
    obtain ⟨queued, _⟩ := published_of_distinct before regular.past.distinct
    have fewer : (started before).length ≤ (started past).length :=
      (gather_mono later).length_le
    rw [queued.epoch, epoch]
    omega

/-- A listener that has subscribed is reached by every later event that it lives to. -/
theorem mem_audience {before past : List Event} {listener : Nat}
    (alive : (history before).isAlive listener = true)
    (later : before ++ [.subscribe listener] <+: past)
    (lives : (history past).isAlive listener = true) : listener ∈ audience past := by
  -- The audience of an event is made up of those who have subscribed and are alive at its start.
  have new : listener ∈ subscribed (before ++ [.subscribe listener]) := by
    rw [subscribed_concat, subscriber?, if_pos alive]
    exact List.mem_append_right _ (List.mem_singleton_self listener)
  exact List.mem_filter.mpr ⟨(gather_mono later).subset new, lives⟩

/-- What has become of an event: a part of its audience, or all of it and the number returned. -/
theorem Fate.reached {context : Context} {started audience : List Nat} {epoch task : Nat}
    {aborted : Prop} (fate : Fate context epoch task audience aborted)
    (published : Published context started) :
    context.heard epoch <+: audience ∧ (aborted ∨ context.Delivers task ∨
      context.heard epoch = audience ∧ context.notified? task = some audience.length) := by
  -- Only an event that is over and was not interrupted has reached its whole audience.
  cases fate with
  | underway here mine _ _ called =>
    exact ⟨called ▸ List.take_prefix _ _, .inr (.inl ⟨_, here, mine⟩)⟩
  | complete _ all returned =>
    exact ⟨all ▸ List.prefix_refl _, .inr (.inr ⟨all, published.notified.mpr returned⟩)⟩
  | cut _ part gaveUp => exact ⟨part, .inl gaveUp⟩

/-- The phase tells whether the last event has come to its end. -/
theorem Published.active {context : Context} {started : List Nat}
    (published : Published context started) :
    context.phase = .active ↔ context.delivery = none ∧
      ∀ task, started.getLast? = some task → (context.notified? task).isSome := by
  -- A refresh has returned a number exactly when it is among those that have come to their end.
  have some_iff (task : Nat) :
      (context.notified? task).isSome ↔ task ∈ context.completed.map (·.1) := by
    simp only [Option.isSome_iff_exists, published.notified, List.mem_map, Prod.exists,
      exists_and_right, exists_eq_right]
  simp only [some_iff]
  cases here : context.delivery with
  | none => simpa using published.settled here
  | some delivery => simp [(published.underway delivery here).2.1]

/-- Driving a refresh asks for none. -/
theorem requests_drive (events : List Event) (task rounds : Nat) :
    requests (events ++ drive task rounds) = requests events := by
  have none : requests (drive task rounds) = [] := by
    induction rounds with
    | zero => rfl
    | succ rounds ih => exact ih
  rw [requests, List.filterMap_append]
  exact (congrArg _ none).trans (List.append_nil _)

end Parts

/--
Whatever happens in which order, refreshes and listeners get along.

Only what cannot happen is left out: that one refresh is asked for twice, and that a dead listener
comes to life again.
-/
theorem history_orderly (events : List Event) (regular : Regular events) : Orderly events := by
  have traced := traced_of_regular events regular
  obtain ⟨queued, published⟩ := published_of_distinct events regular.distinct
  refine
    { serial := (serial_history events).ordered
      counted := ⟨queued.epoch, (List.nodup_append.mp queued.distinct).2.1⟩
      called := traced.called
      reached := ?reached
      joined := ?joined
      returned := ?returned
      withdrawn := ?withdrawn
      active := published.active
      ends := ?ends }
  case reached =>
    -- What has become of an event is known from its start on, for every future.
    intro past task future starts
    have earlier : Regular past := Regular.past (starts.cuts ▸ regular)
    have fate := fate_of_start earlier.distinct earlier.mortal starts.obtains future
    rw [← starts.cuts] at fate
    exact fate.reached published
  case joined =>
    intro before listener subscribes stranger alive
    have earlier := (List.prefix_append before _).trans subscribes
    exact ⟨traced.stranger regular earlier stranger,
      fun past task future _ later lives => mem_audience alive later lives⟩
  case returned =>
    -- A number that was returned is traced back to the start of its event.
    intro task number returned
    obtain ⟨past, future, starts, _, same⟩ :=
      traced.returned task number (published.notified.mp returned)
    exact ⟨past, future, starts, same⟩
  case withdrawn =>
    rintro past task middle future rfl given unstarted
    have both : Regular ((past ++ .request task :: middle) ++ .abort task :: future) := by
      simpa using regular
    exact history_withdraw both.past.distinct given unstarted future
  case ends =>
    -- Driving the refresh adds no request, so the longer history is regular enough too.
    intro delivery here
    obtain ⟨rounds, free, returned⟩ := run_drive here
    obtain ⟨_, published⟩ := published_of_distinct (events ++ drive delivery.task rounds)
      (requests_drive events _ _ ▸ regular.distinct)
    rw [← history_append] at free returned
    exact ⟨rounds, free, published.notified.mpr returned⟩

/-- Listeners subscribe twice or inside a callback, and die; refreshes overlap and are given up. -/
def overlap : List Event :=
  [.hold 1, .hold 2, .hold 3, .subscribe 1, .subscribe 2, .subscribe 1, .request 10, .proceed 10,
    .proceed 10, .subscribe 3, .drop 2, .request 11, .request 12, .proceed 12, .answer 10,
    .proceed 10, .answer 10, .proceed 10, .answer 10, .proceed 10, .proceed 12, .abort 11,
    .proceed 12, .proceed 12, .answer 12, .proceed 12, .abort 12]

/-- The first refresh reaches a listener that dies, and the last one is given up midway. -/
theorem history_orderly_overlap : Regular overlap ∧ Orderly overlap ∧
    started overlap = [10, 12] ∧ (history overlap).notified? 10 = some 3 ∧
      (history overlap).calls = [⟨1, 1⟩, ⟨2, 1⟩, ⟨1, 1⟩, ⟨1, 2⟩, ⟨1, 2⟩] ∧
        (history overlap).phase = .refreshed := by
  have mortal : Mortal overlap := by
    intro past listener future cut
    simp only [overlap, List.cons_eq_append_iff, List.nil_eq_append_iff, List.cons.injEq,
      reduceCtorEq, false_and, and_false, or_false, exists_false, Event.hold.injEq] at cut
    obtain ⟨rfl, rfl, -⟩ | ⟨_, rfl, ⟨rfl, rfl, -⟩ | ⟨_, rfl, rfl, rfl, -⟩⟩ := cut <;> decide
  have regular : Regular overlap := ⟨by decide, mortal⟩
  exact ⟨regular, history_orderly overlap regular, by decide, by decide, by decide, by decide⟩

end PackGate.Context
