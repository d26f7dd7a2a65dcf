import PackGate.Proofs.Context.History

/-! A refresh that is given up before its turn leaves no trace. -/

namespace PackGate.Context

/-- The source without a refresh in the queue. -/
def forget (context : Context) (task : Nat) : Context :=
  { context with waiting := context.waiting.erase task }

/-- Whether an event lets a refresh run. -/
def Event.isRun : Event → Bool
  | .proceed _ => true
  | .hold _ | .drop _ | .subscribe _ | .request _ | .answer _ | .abort _ => false

section Step

variable {context after : Context} {event : Event} {task : Nat}

/-- A refresh that waits makes no difference to a step, but that another one waits behind it. -/
theorem forget_step (waits : task ∈ context.waiting)
    (unstarted : event = .proceed task → ¬context.Obtains task) :
    event.isRun = true ∧ context.step event = context ∨
      (context.forget task).step event = (context.step event).forget task := by
  cases event with
  | hold listener => exact .inr rfl
  | drop listener => exact .inr rfl
  | subscribe listener =>
    refine .inr ?_
    -- Who waits keeps nobody alive.
    have same : (context.forget task).isAlive listener = context.isAlive listener := rfl
    simp only [step, same]
    split <;> rfl
  | request other =>
    refine .inr ?_
    -- The other one queues behind this one, wherever this one stands.
    simp only [step, forget, List.erase_append_left _ waits]
  | proceed other =>
    -- What the other one can do is told by its turn; an idle one may not be idle without this one.
    have turn := step_turn context (.proceed other)
    generalize run : context.step (.proceed other) = after at turn
    cases turn with
    | idle => exact .inl ⟨rfl, rfl⟩
    | start obtains =>
      -- The other one is the first in the queue, with or without this one.
      refine .inr ?_
      have apart : other ≠ task := fun same => unstarted (by rw [same]) (same ▸ obtains)
      obtain ⟨rest, first⟩ := List.head?_eq_some_iff.mp obtains.2
      have left : context.waiting.erase task = other :: rest.erase task := by
        rw [first, List.erase_cons_tail (by simpa using apart)]
      have turn : (context.forget task).Obtains other :=
        ⟨obtains.1, by rw [forget, left, List.head?_cons]⟩
      rw [step_obtains turn]
      simp only [start, publish, forget]
      rw [List.erase_comm]
      rfl
    | @call delivery listener here outside next =>
      refine .inr ?_
      -- A delivery does not look at the queue.
      simp [step, proceed, forget, here, outside, next, call]
    | @finish delivery here outside done =>
      refine .inr ?_
      simp [step, proceed, forget, here, outside, List.getElem?_eq_none done, finish, publish]
  | answer other =>
    refine .inr ?_
    simp only [step, answer, forget]
    split
    · rfl
    · split <;> rfl
  | abort other =>
    refine .inr ?_
    -- Both leave the queue, in either order.
    simp only [step, abort, forget, List.erase_comm]

/-- A refresh that has been asked for waits until it starts or is given up. -/
theorem Turn.waits (turn : Turn context event after) (waits : task ∈ context.waiting)
    (given : event ≠ .abort task) (unstarted : event = .proceed task → ¬context.Obtains task) :
    task ∈ after.waiting := by
  -- Somebody else's leaving does not take this one out of the queue.
  have stays {other : Nat} (apart : task ≠ other) : task ∈ context.waiting.erase other :=
    (List.mem_erase_of_ne apart).mpr waits
  cases turn with
  | request => exact List.mem_append_left _ waits
  | start obtains => exact stays fun same => unstarted (by rw [same]) (same ▸ obtains)
  | leave => exact stays fun same => given (by rw [same])
  | halt => exact stays fun same => given (by rw [same])
  | _ => exact waits

end Step

/-- While a refresh waits, the source is as without it, but for turns that others cannot take. -/
theorem history_beside {past : List Event} {task : Nat} (absent : task ∉ (history past).waiting)
    (middle : List Event) (given : .abort task ∉ middle)
    (unstarted : task ∉ started (past ++ .request task :: middle)) :
    task ∈ (history (past ++ .request task :: middle)).waiting ∧
      ∃ kept, kept.Sublist middle ∧ kept.filter (!·.isRun) = middle.filter (!·.isRun) ∧
        history (past ++ kept) = (history (past ++ .request task :: middle)).forget task := by
  -- The induction is on the last event beside which the refresh waits.
  induction middle using List.reverseRecOn with
  | nil =>
    rw [history_concat]
    refine ⟨List.mem_append_right _ (List.mem_singleton_self task), [], .slnil, rfl, ?_⟩
    have left : ((history past).waiting ++ [task]).erase task = (history past).waiting := by
      rw [List.erase_append_right _ absent, List.erase_cons_head, List.append_nil]
    rw [List.append_nil]
    simp only [step, forget, left]
  | append_singleton before event ih =>
    have given : event ≠ .abort task ∧ .abort task ∉ before := by
      rw [List.mem_append, List.mem_singleton, not_or] at given
      exact ⟨fun same => given.2 same.symm, given.1⟩
    rw [← List.cons_append, ← List.append_assoc, started_concat, List.mem_append, not_or]
      at unstarted
    -- Had the last event been its turn, the refresh would have started.
    have elsewhere : event = .proceed task →
        ¬(history (past ++ .request task :: before)).Obtains task := by
      rintro rfl obtains
      exact unstarted.2 (by simp [starter?, obtains])
    obtain ⟨waits, kept, fewer, rest, same⟩ := ih given.2 unstarted.1
    rw [← List.cons_append, ← List.append_assoc, history_concat]
    refine ⟨(step_turn _ event).waits waits given.1 elsewhere, ?_⟩
    rcases forget_step waits elsewhere with ⟨run, idle⟩ | beside
    · -- Without the refresh this turn could have been taken, so it is left out.
      refine ⟨kept, fewer.trans (List.sublist_append_left _ _), ?_, by rw [same, idle]⟩
      simp [rest, run]
    · refine ⟨kept ++ [event], fewer.append_right _, ?_, ?_⟩
      · rw [List.filter_append, rest, List.filter_append]
      · rw [← List.append_assoc, history_concat, same, beside]

/--
A refresh that is given up before its turn leaves no trace.

The source is as if it had not been asked for, and turns that others could not take had not come.
-/
theorem history_withdraw {past middle : List Event} {task : Nat}
    (distinct : (requests (past ++ .request task :: middle)).Nodup)
    (given : .abort task ∉ middle)
    (unstarted : task ∉ started (past ++ .request task :: middle)) (future : List Event) :
    ∃ kept, kept.Sublist middle ∧ kept.filter (!·.isRun) = middle.filter (!·.isRun) ∧
      history (past ++ .request task :: (middle ++ .abort task :: future)) =
        history (past ++ (kept ++ future)) := by
  -- It is asked for once, so it was not in the queue before.
  have absent : task ∉ (history past).waiting := by
    have parts := distinct
    rw [requests, List.filterMap_append, List.nodup_append] at parts
    obtain ⟨queued, _⟩ := published_of_distinct past parts.1
    refine fun mem => ?_
    have asked : task ∈ requests past := queued.asked (List.mem_append_left _ mem)
    exact parts.2.2 task asked task (by simp [Event.request?]) rfl
  obtain ⟨_, kept, fewer, rest, same⟩ := history_beside absent middle given unstarted
  -- The event on its way is that of another refresh.
  have other : (history (past ++ .request task :: middle)).delivery.filter (·.task ≠ task) =
      (history (past ++ .request task :: middle)).delivery := by
    obtain ⟨_, published⟩ := published_of_distinct _ distinct
    refine Option.ext fun delivery => ?_
    rw [Option.filter_eq_some_iff, and_iff_left_iff_imp]
    intro here
    have begun := List.mem_of_getLast? (published.underway delivery here).1
    have apart : delivery.task ≠ task := ne_of_mem_of_not_mem begun unstarted
    simpa using apart
  -- Giving it up takes away the one place that it still had.
  have left : history ((past ++ .request task :: middle) ++ [.abort task]) =
      history (past ++ kept) := by
    rw [history_concat, same]
    simp only [step, abort, forget, other]
  have cut : past ++ .request task :: (middle ++ .abort task :: future) =
      ((past ++ .request task :: middle) ++ [.abort task]) ++ future := by simp
  refine ⟨kept, fewer, rest, ?_⟩
  rw [cut, history_append, left, ← history_append, List.append_assoc]

end PackGate.Context
