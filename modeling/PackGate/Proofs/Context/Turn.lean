import PackGate.Context

/-! All that one step of the source of refresh events can do. -/

namespace PackGate.Context

/-- It is the turn of a refresh to start its event. -/
def Obtains (context : Context) (task : Nat) : Prop :=
  context.delivery = none ∧ context.waiting.head? = some task

/-- What an event can make of a source of refresh events. -/
inductive Turn (context : Context) : Event → Context → Prop where
  /-- Nothing happens: no refresh was to start its event, and no living listener to subscribe. -/
  | idle {event : Event} (waits : ∀ task, event = .proceed task → ¬context.Obtains task)
      (dead : ∀ listener, event = .subscribe listener → context.isAlive listener = false) :
      Turn context event context
  /-- Somebody keeps a listener alive. -/
  | hold (listener : Nat) :
      Turn context (.hold listener) { context with held := listener :: context.held }
  /-- Nobody outside keeps a listener alive any longer. -/
  | drop (listener : Nat) :
      Turn context (.drop listener) { context with held := context.held.filter (· ≠ listener) }
  /-- A living listener subscribes. -/
  | subscribe {listener : Nat} (alive : context.isAlive listener = true) :
      Turn context (.subscribe listener)
        { context with subscriptions := context.subscriptions ++ [listener] }
  /-- A refresh takes its place in the queue. -/
  | request (task : Nat) :
      Turn context (.request task) { context with waiting := context.waiting ++ [task] }
  /-- The refresh whose turn it is starts its event. -/
  | start {task : Nat} (obtains : context.Obtains task) :
      Turn context (.proceed task) (context.start task)
  /-- The event on its way reaches the next listener. -/
  | call {delivery : Delivery} {listener : Nat} (here : context.delivery = some delivery)
      (outside : delivery.inside = false) (next : delivery.live[delivery.called]? = some listener) :
      Turn context (.proceed delivery.task) (context.call delivery listener)
  /-- The event on its way has reached all listeners. -/
  | finish {delivery : Delivery} (here : context.delivery = some delivery)
      (outside : delivery.inside = false) (done : delivery.live.length ≤ delivery.called) :
      Turn context (.proceed delivery.task) (context.finish delivery)
  /-- The callback of the event on its way ends. -/
  | answer {delivery : Delivery} (here : context.delivery = some delivery) :
      Turn context (.answer delivery.task)
        { context with delivery := some { delivery with inside := false } }
  /-- A refresh that waits for its turn is given up. -/
  | leave {task : Nat} (other : ∀ delivery, context.delivery = some delivery →
        delivery.task ≠ task) :
      Turn context (.abort task) { context with waiting := context.waiting.erase task }
  /-- The refresh of the event on its way is given up. -/
  | halt {delivery : Delivery} (here : context.delivery = some delivery) :
      Turn context (.abort delivery.task)
        { context with delivery := none, waiting := context.waiting.erase delivery.task }

/-- Every step is one of the turns. -/
theorem step_turn (context : Context) (event : Event) :
    Turn context event (context.step event) := by
  cases event with
  | hold listener => exact .hold listener
  | drop listener => exact .drop listener
  | subscribe listener =>
    -- Whether the listener lives is all that a subscription looks at.
    dsimp only [step]
    split
    · exact .subscribe ‹_›
    · -- A dead listener cannot subscribe, and this is what the idle turn asks for.
      rename_i dead
      refine .idle (by simp) fun other same => ?_
      cases same
      simpa using dead
  | request task => exact .request task
  | proceed task =>
    dsimp only [step]
    unfold proceed
    split
    · -- No event is on its way, so whose turn it is shows at the head of the queue.
      rename_i free
      split
      · exact .start ⟨free, ‹_›⟩
      · rename_i behind
        refine .idle (fun other same obtains => ?_) (by simp)
        cases same
        exact behind obtains.2
    · rename_i delivery here
      split
      · -- While an event is on its way no other refresh starts one.
        refine .idle (fun other same obtains => ?_) (by simp)
        have free := obtains.1
        rw [here] at free
        cases free
      · -- The event is this refresh's, and the callback before has ended.
        rename_i waits
        simp only [Bool.or_eq_true, decide_eq_true_eq, ne_eq, not_or, Decidable.not_not,
          Bool.not_eq_true] at waits
        obtain ⟨rfl, outside⟩ := waits
        -- Either there is another listener to call, or the event has reached them all.
        split
        · exact .call here outside ‹_›
        · exact .finish here outside (List.getElem?_eq_none_iff.mp ‹_›)
  | answer task =>
    -- A callback ends on an event that is on its way, or nothing happens.
    dsimp only [step]
    unfold answer
    split
    · exact .idle (by simp) (by simp)
    · -- Only the refresh of the event on its way waits for a callback.
      rename_i delivery here
      split
      · rename_i same
        subst same
        exact .answer here
      · exact .idle (by simp) (by simp)
  | abort task =>
    dsimp only [step]
    unfold abort
    -- Whether a refresh waits for its turn or has had it makes out what it leaves behind.
    cases here : context.delivery with
    | none =>
      have leaves : Turn context (.abort task) _ := .leave (by simp [here])
      simpa [here] using leaves
    | some delivery =>
      by_cases same : delivery.task = task
      · subst same
        simpa [Option.filter] using Turn.halt here
      · have leaves : Turn context (.abort task) _ := .leave (by simp [here, same])
        simpa [here, same, Option.filter] using leaves

/-- A refresh whose turn it is starts its event when it runs. -/
theorem step_obtains {context : Context} {task : Nat} (obtains : context.Obtains task) :
    context.step (.proceed task) = context.start task := by
  -- No event is on its way, and the refresh is at the head of the queue.
  simp only [step, proceed, obtains.1, obtains.2, if_true]

end PackGate.Context
