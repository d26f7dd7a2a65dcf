import PackGate.Context

/-! A refresh that nothing comes in between, from its request to its end. -/

namespace PackGate.Context

/-- Nobody waits to refresh, and no event is on its way. -/
structure Idle (context : Context) : Prop where
  /-- Nobody waits. -/
  waiting : context.waiting = []
  /-- No event is on its way. -/
  delivery : context.delivery = none

/-- The listeners that are alive, one for each subscription in order. -/
def live (context : Context) : List Nat :=
  context.subscriptions.filter context.isAlive

/-- The callbacks that have begun with so many of the listeners called by the next event. -/
def callsUpTo (context : Context) (called : Nat) : List Call :=
  context.calls ++ (context.live.take called).map (⟨·, context.epoch + 1⟩)

/-- The source while the next event is on its way, with so many of its callbacks begun. -/
def midway (context : Context) (task called : Nat) (inside : Bool) : Context :=
  { context with
    epoch := context.epoch + 1
    phase := .refreshed
    version := context.version + 1
    subscriptions := context.live
    waiting := []
    delivery := some { task, live := context.live, called, inside }
    calls := context.callsUpTo called }

/-- The source after the next event. -/
def refreshed (context : Context) (task : Nat) : Context :=
  { context with
    epoch := context.epoch + 1
    phase := .active
    version := context.version + 2
    subscriptions := context.live
    waiting := []
    delivery := none
    calls := context.callsUpTo context.live.length
    completed := context.completed ++ [(task, context.live.length)] }

variable {context : Context} {task called : Nat}

/-- A refresh that is alone starts its event at once. -/
theorem Idle.starts (idle : context.Idle) (task : Nat) :
    (context.step (.request task)).step (.proceed task) = context.midway task 0 false := by
  obtain ⟨waiting, delivery⟩ := idle
  -- No event keeps a listener alive, neither before the request nor after it.
  have alive : Context.isAlive { context with waiting := [task] } = context.isAlive := by
    funext listener
    simp [isAlive, delivery]
  rw [delivery] at alive
  simp [step, proceed, start, publish, midway, live, callsUpTo, waiting, delivery, alive]

/-- One more callback is one of the next listener. -/
theorem callsUpTo_succ (more : called < context.live.length) :
    context.callsUpTo (called + 1) =
      context.callsUpTo called ++ [⟨context.live[called], context.epoch + 1⟩] := by
  -- Among the first listeners the next one comes last.
  rw [callsUpTo, callsUpTo, List.take_add_one, List.getElem?_eq_getElem more, Option.toList_some,
    List.map_append, List.append_assoc]
  rfl

/-- The next callback begins. -/
theorem midway_calls (more : called < context.live.length) :
    (context.midway task called false).step (.proceed task) =
      context.midway task (called + 1) true := by
  -- There is a listener left, so the refresh calls it and waits.
  simp [step, proceed, call, midway, callsUpTo_succ more, List.getElem?_eq_getElem more]

/-- A callback ends. -/
theorem midway_answers :
    (context.midway task called true).step (.answer task) = context.midway task called false := by
  simp [step, answer, midway]

/-- After the last callback the event ends. -/
theorem midway_finishes :
    (context.midway task context.live.length false).step (.proceed task) =
      context.refreshed task := by
  -- No listener is left, so the refresh publishes its end.
  simp [step, proceed, finish, publish, midway, refreshed]

end PackGate.Context
