import PackGate.Factory.Sequential
import PackGate.Proofs.Factory.Transition

/-! A lookup that runs to its end: who is asked for what, and how the answer is told. -/

namespace PackGate.Factory

variable {ρ : Type}

/-- The identifiers that callers have asked for, in the order they came. -/
def asked (factory : Factory ρ) : Array Identifier :=
  factory.callers.map (·.id)

/-- What a caller asks for is part of what callers have asked for. -/
theorem asked_of_caller {factory : Factory ρ} {member : Nat} {caller : Caller}
    (here : factory.callers[member]? = some caller) : factory.asked[member]? = some caller.id := by
  -- What is asked for is read off the callers one by one.
  rw [asked, Array.getElem?_map, here]
  rfl

/-- Whoever asks for an identifier is a caller for it. -/
theorem caller_of_asked {factory : Factory ρ} {member : Nat} {id : Identifier}
    (asks : factory.asked[member]? = some id) :
    ∃ caller, factory.callers[member]? = some caller ∧ caller.id = id := by
  rw [asked, Array.getElem?_map] at asks
  exact Option.map_eq_some_iff.mp asks

/-- Where a caller stands and what it asks for is all that there is of it. -/
theorem caller_of_stage {factory : Factory ρ} {member : Nat} {id : Identifier} {stage : Stage}
    (asks : factory.asked[member]? = some id) (stands : factory.stage? member = some stage) :
    factory.callers[member]? = some ⟨id, stage⟩ := by
  -- A caller has no more than these two fields.
  obtain ⟨⟨name, known⟩, here, rfl⟩ := caller_of_asked asks
  rw [stage?, here] at stands
  cases stands
  exact here

/-- A caller has neither been served nor refused. -/
def Unanswered (factory : Factory ρ) (caller : Nat) : Prop :=
  (∀ build, factory.stage? caller ≠ some (.served build)) ∧
    ∀ error, factory.stage? caller ≠ some (.refused error)

variable [Releasable ρ]

/-- A new caller asks for the identifier and is about to enter. -/
theorem new_caller (factory : Factory ρ) (id : Identifier) :
    (factory.step (.call id)).callers[factory.callers.size]? = some { id } :=
  Array.getElem?_push_size

/-- In a step nobody asks for anything, unless a new caller comes. -/
theorem Transition.asked {factory after : Factory ρ} {event : Event ρ}
    (transition : Transition factory event after) :
    after.asked = factory.asked ∨
      ∃ id, event = .call id ∧ after.asked = factory.asked.push id := by
  -- A step moves one caller at most, and wherever it stands it asks for the same.
  have moved {between : Factory ρ} {member : Nat} {stage : Stage}
      (callers : after.callers = between.callers.modify member ({ · with stage }))
      (same : between.callers = factory.callers) : after.asked = factory.asked := by
    rw [Factory.asked, Factory.asked, callers, ← same]
    exact map_modify_eq (by intro known; rfl) between.callers member
  -- Only a call changes the callers in another way than by where one of them stands.
  cases transition with
  | idle touched => exact .inl (by rw [Factory.asked, touched.callers, Factory.asked])
  | call id => exact .inr ⟨id, rfl, by simp [Factory.asked]⟩
  | walk touched => exact .inl (moved (move_callers ..) touched.callers)
  | quit => exact .inl (moved (move_callers ..) rfl)
  | @join between caller _ known touched =>
    obtain ⟨flight, _, callers, _⟩ := join_flight between caller known.id
    exact .inl (moved callers touched.callers)
  | conclude => exact .inl (moved (depart_callers ..) rfl)
  | leave => exact .inl (moved (depart_callers ..) rfl)
  | abandon => exact .inl (moved (depart_callers ..) rfl)
  | reuse touched => exact .inl (moved (land_callers ..) touched.callers)
  | start touched => exact .inl (moved (move_callers ..) touched.callers)
  | deliver _ _ touched => exact .inl (moved (move_callers ..) touched.callers)
  | fail _ _ touched => exact .inl (moved (land_callers ..) touched.callers)
  | @discard between _ _ build _ _ _ touched =>
    exact .inl (moved (land_callers ..)
      ((release_frame between build).callers.trans touched.callers))
  | @store _ _ build _ known =>
    exact .inl (moved (land_callers ..) (store_frame factory build known.id).1.callers)
  | reset _ _ _ _ _ _ callers => exact .inl (by rw [Factory.asked, callers, Factory.asked])

/-- What a caller asks for stays what it asks for. -/
theorem Transition.asks {factory after : Factory ρ} {event : Event ρ} {member : Nat}
    {id : Identifier} (transition : Transition factory event after)
    (asks : factory.asked[member]? = some id) : after.asked[member]? = some id := by
  rcases transition.asked with same | ⟨name, _, pushed⟩
  · rw [same]
    exact asks
  · -- A new caller comes behind all others.
    have inside : member < factory.asked.size := (Array.getElem?_eq_some_iff.mp asks).choose
    rw [pushed, Array.getElem?_push_lt inside, ← asks, Array.getElem?_eq_getElem inside]

omit [Releasable ρ] in
/-- Log records leave all but the log as it is. -/
theorem foldl_note_frame (notices : List Notice) (factory : Factory ρ) :
    notices.foldl note factory = { factory with journal := factory.journal ++ notices } := by
  -- The induction is on the records, which are added at the end one by one.
  induction notices generalizing factory with
  | nil => simp
  | cons notice rest ih => simp [ih, note]

/-- The next stretch of a caller ends the build that it drives, or is one that it runs itself. -/
theorem stretch_cases {factory next : Factory ρ} {caller : Nat} {work : Work ρ}
    (goes : factory.proceed? caller work = some next) :
    (∃ flight build, factory.stage? caller = some (.building flight build) ∧
        next = { factory with journal := factory.journal ++ work.notices }.step
          (.finish caller work.outcome)) ∨
      ∃ stage, factory.stage? caller = some stage ∧
        (stage = .entering ∨ stage = .activating ∨ (∃ flight, stage = .joined flight) ∨
          ∃ flight build, stage = .checking flight build) ∧
        next = factory.step (.advance caller work.resource) := by
  unfold proceed? at goes
  cases stands : factory.stage? caller with
  | none =>
    rw [stands] at goes
    cases goes
  | some stage =>
    rw [stands] at goes
    -- A caller that has been answered, or has gone away, has no stretch left.
    cases stage with
    | building flight build =>
      cases goes
      exact .inl ⟨flight, build, rfl, by rw [foldl_note_frame]⟩
    | served | refused | cancelled => cases goes
    | entering | activating | joined | checking =>
      cases goes
      exact .inr ⟨_, rfl, by simp, rfl⟩

/-- The next stretch of a caller brings nobody else. -/
theorem stretch_asked {factory next : Factory ρ} {caller : Nat} {work : Work ρ}
    (goes : factory.proceed? caller work = some next) : next.asked = factory.asked := by
  -- The stretch is a step of this caller, and no step but a call brings another one.
  have alone {between : Factory ρ} {event : Event ρ} (other : ∀ id, event ≠ .call id) :
      (between.step event).asked = between.asked :=
    (step_transition between event).asked.resolve_right fun ⟨id, called, _⟩ => other id called
  rcases stretch_cases goes with ⟨_, _, _, rfl⟩ | ⟨_, _, _, rfl⟩
  · exact alone (by simp)
  · exact alone (by simp)

/-- After a lookup its caller has run as far as it can. -/
theorem get_after (factory : Factory ρ) (builder : Identifier → Work ρ) (id : Identifier) :
    (factory.get builder id).2 =
      proceed factory.callers.size (builder id) longestLookup (factory.step (.call id)) :=
  rfl

/-- The answer of a lookup is where its caller stands, if that is an answer. -/
theorem get_cases (factory : Factory ρ) (builder : Identifier → Work ρ) (id : Identifier) :
    (∃ build, (factory.get builder id).2.stage? factory.callers.size = some (.served build) ∧
        (factory.get builder id).1 = some (.ok build)) ∨
      (∃ error, (factory.get builder id).2.stage? factory.callers.size = some (.refused error) ∧
        (factory.get builder id).1 = some (.error error)) ∨
        Unanswered (factory.get builder id).2 factory.callers.size ∧
          (factory.get builder id).1 = none := by
  rw [get_after]
  -- The answer is read off the caller's stage, which is one of these or another one.
  unfold get answer?
  dsimp only
  split
  · rename_i build served
    exact .inl ⟨build, served, rfl⟩
  · rename_i error refused
    exact .inr (.inl ⟨error, refused, rfl⟩)
  · rename_i unserved unrefused
    exact .inr (.inr ⟨⟨unserved, unrefused⟩, rfl⟩)

end PackGate.Factory
