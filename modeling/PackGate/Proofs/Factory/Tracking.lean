import PackGate.Proofs.Factory.Closing

/-! Every flight in the table is held by a caller, and the last one to let go takes it out. -/

namespace PackGate.Factory

variable {ρ : Type} {factory : Factory ρ}

/-! ## Guards and references -/

/-- The callers that hold a guard on a flight. -/
def holders (factory : Factory ρ) (flight : Nat) : List Nat :=
  (List.range factory.callers.size).filter fun member =>
    (factory.stage? member).bind Stage.flight? == some flight

/-- How many references to a flight there are: one for each guard, and those of the table. -/
def references (factory : Factory ρ) (flight : Nat) : Nat :=
  (factory.holders flight).length + factory.table.toList.countP (·.2 == flight)

/-- A caller holds a guard on the flight that its stage names. -/
theorem mem_holders {member flight : Nat} :
    member ∈ factory.holders flight ↔
      ∃ caller, factory.callers[member]? = some caller ∧ caller.stage.flight? = some flight := by
  unfold holders stage?
  rw [List.mem_filter, List.mem_range]
  -- A caller is one of those in the list, so the bound says no more than that there is one.
  cases here : factory.callers[member]? with
  | none => simp
  | some caller =>
    have inside := (Array.getElem?_eq_some_iff.mp here).1
    simp [inside]

namespace Crewed

/-- The guards on a flight are those of its members. -/
theorem holders_perm (crewed : Crewed factory) {flight : Nat} {known : Flight}
    (found : factory.flights[flight]? = some known) :
    (factory.holders flight).Perm known.members := by
  -- Neither list has anybody twice, and both have the callers whose stage names the flight.
  have distinct : (factory.holders flight).Nodup := List.nodup_range.filter _
  rw [List.perm_ext_iff_of_nodup distinct (crewed.distinct found)]
  intro member
  rw [mem_holders, crewed.members found member]

/-- Somebody holds a guard on every flight in the table. -/
theorem holders_ne_nil (crewed : Crewed factory) {id : Identifier} {flight : Nat}
    (tracked : factory.table[id]? = some flight) : factory.holders flight ≠ [] := by
  obtain ⟨known, found, _, crowded⟩ := crewed.tracked tracked
  intro nobody
  have members := crewed.holders_perm found
  rw [nobody] at members
  exact crowded members.nil_eq.symm

/-- The table refers to a flight that it tracks once, under the identifier of the flight. -/
theorem references_eq (crewed : Crewed factory) {id : Identifier} {flight : Nat}
    (tracked : factory.table[id]? = some flight) :
    factory.references flight = (factory.holders flight).length + 1 := by
  obtain ⟨known, found, ids, _⟩ := crewed.tracked tracked
  have distinct : factory.table.toList.Nodup :=
    (Std.HashMap.distinct_keys_toList (m := factory.table)).imp fun apart same => by
      simp [same] at apart
  -- Any entry for the flight is under its identifier, so it is this one.
  have alone : (factory.table.toList.filter (·.2 == flight)).Perm [(id, flight)] := by
    rw [List.perm_ext_iff_of_nodup (distinct.filter _) (List.nodup_singleton _)]
    intro ⟨name, named⟩
    rw [List.mem_filter, Std.HashMap.mem_toList_iff_getElem?_eq_some, List.mem_singleton]
    constructor
    · rintro ⟨entry, same⟩
      obtain rfl : named = flight := by simpa using same
      obtain ⟨again, there, own, _⟩ := crewed.tracked entry
      rw [found] at there
      cases there
      rw [← own, ← ids]
    · intro same
      cases same
      exact ⟨tracked, by simp⟩
  rw [references, List.countP_eq_length_filter, alone.length_eq]
  rfl

/--
What leaving a flight does to the table, told by references.

The flight is taken out if the table tracks it and holds the only other reference to it.
-/
theorem leave_getElem? (crewed : Crewed factory) {member flight : Nat}
    (holds : member ∈ factory.holders flight) (id : Identifier) :
    (factory.leave member flight).table[id]? =
      if factory.table[id]? = some flight ∧ factory.references flight = 2 then none
      else factory.table[id]? := by
  obtain ⟨caller, here, on⟩ := mem_holders.mp holds
  obtain ⟨known, found, _⟩ := crewed.own here on
  have members := (crewed.holders_perm found).length_eq
  have kept := crewed.leave_tracked found ((crewed.members found member).mpr ⟨caller, here, on⟩) id
  rw [erase_ne_nil_iff ((crewed.members found member).mpr ⟨caller, here, on⟩)] at kept
  split
  · -- The only member leaves, so nothing is tracked under the name any more.
    rename_i last
    rw [crewed.references_eq last.1] at last
    cases there : (factory.leave member flight).table[id]? with
    | none => rfl
    | some named =>
      obtain ⟨before, others⟩ := (kept named).mp there
      rw [last.1] at before
      cases before
      exact absurd (by omega) (others rfl)
  · rename_i stays
    cases there : factory.table[id]? with
    | none =>
      -- What is tracked afterwards was tracked before.
      cases later : (factory.leave member flight).table[id]? with
      | none => rfl
      | some named =>
        obtain ⟨before, _⟩ := (kept named).mp later
        rw [there] at before
        cases before
    | some named =>
      refine (kept named).mpr ⟨there, ?_⟩
      rintro rfl single
      rw [there, crewed.references_eq there] at stays
      exact stays ⟨rfl, by omega⟩

end Crewed

/-! ## Letting go -/

section Drop

variable [Releasable ρ] {event : Event ρ} {after : Factory ρ}

/-- With an event a caller lets go of a flight: it held a guard before, and holds none after. -/
def Drops (factory : Factory ρ) (event : Event ρ) (member flight : Nat) : Prop :=
  member ∈ factory.holders flight ∧ member ∉ (factory.step event).holders flight

omit [Releasable ρ] in
/-- What leaving does to the table depends on flights and table alone. -/
theorem leave_table_congr {other : Factory ρ} (flights : other.flights = factory.flights)
    (table : other.table = factory.table) (member flight : Nat) :
    (other.leave member flight).table = (factory.leave member flight).table := by
  unfold leave
  rw [flights]
  -- Where there is such a flight, the table is made of the table of before.
  split
  · exact table
  · simp only [updateFlight, table]

omit [Releasable ρ] in
/-- A caller that lands leaves its flight too, whatever has been counted or released before. -/
theorem land_table_leave (factory : Factory ρ) {between : Factory ρ}
    (flights : between.flights = factory.flights) (table : between.table = factory.table)
    (member flight : Nat) (attempt : Attempt) :
    (between.land member flight attempt).table = (factory.leave member flight).table := by
  rw [land_table]
  exact leave_table_congr flights table member flight

section Aboard

variable {member flight : Nat} {caller known : Caller}

omit [Releasable ρ]

/-- A caller on a flight does not wander. -/
theorem not_wanders_of_flight? (here : factory.callers[member]? = some caller)
    (on : caller.stage.flight? = some flight) (there : factory.callers[member]? = some known) :
    known.stage.wanders ≠ true := by
  intro wanders
  rw [here] at there
  cases there
  -- Whoever wanders is on no flight.
  rw [Stage.flight?_of_wanders wanders] at on
  cases on

/-- A caller is on one flight, which is the one that its stage names. -/
theorem flight_unique (here : factory.callers[member]? = some caller)
    (on : caller.stage.flight? = some flight) {stage : Stage} {named : Nat}
    (there : factory.callers[member]? = some known) (stands : known.stage = stage)
    (names : stage.flight? = some named) : named = flight := by
  rw [here] at there
  cases there
  rw [stands, names] at on
  exact Option.some.inj on

/-- A caller that moves to another stage on its flight stays on it. -/
theorem stays_of_moved (here : factory.callers[member]? = some caller) {stage : Stage}
    (moved : after.callers = factory.callers.modify member ({ · with stage }))
    (still : stage.flight? = some flight) :
    ∃ later, after.callers[member]? = some later ∧ later.stage.flight? = some flight := by
  rw [moved]
  exact ⟨_, getElem?_modify_self here _, still⟩

end Aboard

/-- In a step a caller stays on its flight, or the table is what its leaving makes of it. -/
theorem Transition.keeps_or_leaves (transition : Transition factory event after)
    (sound : Sound factory) {member flight : Nat} {caller : Caller}
    (here : factory.callers[member]? = some caller) (on : caller.stage.flight? = some flight) :
    (∃ later, after.callers[member]? = some later ∧ later.stage.flight? = some flight) ∨
      after.table = (factory.leave member flight).table := by
  by_cases acts : event.actor? = some member
  · -- Only the caller's own events can take it off its flight.
    cases transition with
    | idle touched => exact .inl ⟨caller, by rw [touched.callers]; exact here, on⟩
    | call => cases acts
    | walk _ there wandering =>
      cases acts
      exact absurd wandering (not_wanders_of_flight? here on there)
    | quit there wandering =>
      cases acts
      exact absurd wandering (not_wanders_of_flight? here on there)
    | join _ there wandering =>
      cases acts
      exact absurd wandering (not_wanders_of_flight? here on there)
    | conclude there joined =>
      cases acts
      obtain rfl := flight_unique here on there joined rfl
      exact .inr rfl
    | leave there stands =>
      cases acts
      rcases stands with joined | ⟨build, checks⟩
      · obtain rfl := flight_unique here on there joined rfl
        exact .inr rfl
      · obtain rfl := flight_unique here on there checks rfl
        exact .inr rfl
    | @abandon _ _ build _ there builds =>
      cases acts
      obtain rfl := flight_unique here on there builds rfl
      -- The build that ends with the caller is no part of flights and table.
      let ended := factory.updateBuild build ({ · with status := .cancelled })
      exact .inr (leave_table_congr (show ended.flights = factory.flights from rfl) rfl member _)
    | reuse touched there joined =>
      cases acts
      obtain rfl := flight_unique here on there joined rfl
      exact .inr (land_table_leave factory touched.flights touched.table ..)
    | start touched there joined =>
      cases acts
      obtain rfl := flight_unique here on there joined rfl
      exact .inl (stays_of_moved here (by rw [move_callers, touched.callers]) rfl)
    | deliver there builds touched =>
      cases acts
      obtain rfl := flight_unique here on there builds rfl
      exact .inl (stays_of_moved here (by rw [move_callers, touched.callers]; rfl) rfl)
    | fail there builds touched =>
      cases acts
      obtain rfl := flight_unique here on there builds rfl
      exact .inr (land_table_leave factory touched.flights touched.table ..)
    | @discard between _ _ build _ _ _ touched there checks =>
      cases acts
      obtain rfl := flight_unique here on there checks rfl
      have freed := release_frame between build
      exact .inr (land_table_leave factory (freed.flights.trans touched.flights)
        (freed.table.trans touched.table) ..)
    | @store _ _ build _ known _ there checks =>
      cases acts
      obtain rfl := flight_unique here on there checks rfl
      obtain ⟨freed, _⟩ := store_frame factory build known.id
      exact .inr (land_table_leave factory freed.flights freed.table ..)
    | reset _ _ _ _ _ _ _ _ resets =>
      -- A refresh and the shutdown are nobody's events.
      rcases resets with ⟨rfl, _⟩ | ⟨rfl, _⟩
      · cases acts
      · cases acts
  · -- An event about somebody else leaves the caller where it is.
    exact .inl ⟨caller, transition.bystander sound here acts, on⟩

/-- Letting go of a flight takes it out of the table if the table has the only other reference. -/
theorem Drops.table {member flight : Nat} (drops : Drops factory event member flight)
    (sound : Sound factory) (id : Identifier) :
    (factory.step event).table[id]? =
      if factory.table[id]? = some flight ∧ factory.references flight = 2 then none
      else factory.table[id]? := by
  obtain ⟨held, gone⟩ := drops
  obtain ⟨caller, here, on⟩ := mem_holders.mp held
  rcases (step_transition factory event).keeps_or_leaves sound here on with ⟨later, still⟩ | left
  · exact absurd (mem_holders.mpr ⟨later, still⟩) gone
  · rw [left]
    exact sound.crewed.leave_getElem? held id

/-- Letting go of a flight spares those that somebody else holds, and every other flight. -/
theorem Drops.spares {member flight : Nat} (drops : Drops factory event member flight)
    (sound : Sound factory) {id : Identifier} {tracked : Nat}
    (there : factory.table[id]? = some tracked)
    (others : tracked = flight → ∃ other ∈ factory.holders flight, other ≠ member) :
    (factory.step event).table[id]? = some tracked := by
  rw [drops.table sound id, if_neg, there]
  rintro ⟨same, single⟩
  rw [sound.crewed.references_eq same] at single
  rw [there] at same
  obtain ⟨other, also, apart⟩ := others (Option.some.inj same)
  -- There is one guard only, which is the one that is let go.
  obtain ⟨last, alone⟩ := List.length_eq_one_iff.mp (Nat.succ.inj single)
  have held := drops.1
  rw [alone, List.mem_singleton] at held also
  exact apart (also.trans held.symm)

/-! ## Every run -/

omit [Releasable ρ] in
/-- When nobody is under way, nothing is in flight. -/
theorem Crewed.inFlight_eq_zero (crewed : Crewed factory)
    (isOver : ∀ member stage, factory.stage? member = some stage → stage.isOver = true) :
    factory.stats.inFlight = 0 := by
  show factory.table.size = 0
  rw [← Std.HashMap.length_toList, List.length_eq_zero_iff, List.eq_nil_iff_forall_not_mem]
  rintro ⟨id, flight⟩ entry
  -- A flight in the table has a holder, and whoever holds a guard is under way.
  have tracked := Std.HashMap.mem_toList_iff_getElem?_eq_some.mp entry
  obtain ⟨holder, held⟩ := List.exists_mem_of_ne_nil _ (crewed.holders_ne_nil tracked)
  obtain ⟨caller, here, on⟩ := mem_holders.mp held
  have done := isOver holder caller.stage (stage?_of_caller here rfl)
  cases stage : caller.stage with
  | joined _ | building _ _ | checking _ _ =>
    rw [stage] at done
    cases done
  | _ =>
    rw [stage] at on
    cases on

/--
No flight is left behind, over every run.

Every flight in the table is one for the identifier and has a holder; the references to it are
those of its holders and the one of the table.
Whoever is on an open flight of the current generation is on the one in the table.
A caller that lets go of a flight takes it out if the table has the only other reference to it, so a
flight that somebody else holds stays, and so does every other flight.
When nobody is under way, nothing is in flight.
-/
theorem run_leaves_no_flight {capacity : Nat} {budget : Duration} {start : Factory ρ}
    (created : create capacity budget = .ok start) (past : List (Event ρ)) :
    (∀ id flight, (start.run past).table[id]? = some flight →
      (∃ flown, (start.run past).flights[flight]? = some flown ∧ flown.id = id) ∧
        0 < ((start.run past).holders flight).length ∧
        (start.run past).references flight = 1 + ((start.run past).holders flight).length) ∧
    (∀ (member : Nat) caller flight flown, (start.run past).callers[member]? = some caller →
      caller.stage.flight? = some flight → (start.run past).flights[flight]? = some flown →
        flown.cell = none → flown.generation = (start.run past).generation →
          (start.run past).table[caller.id]? = some flight) ∧
    (∀ event member flight, Drops (start.run past) event member flight → ∀ id : Identifier,
      ((start.run past).step event).table[id]? =
          (if (start.run past).table[id]? = some flight ∧ (start.run past).references flight = 2
            then none else (start.run past).table[id]?) ∧
        ∀ tracked, (start.run past).table[id]? = some tracked →
          (tracked = flight → ∃ other ∈ (start.run past).holders flight, other ≠ member) →
            ((start.run past).step event).table[id]? = some tracked) ∧
    ((∀ member stage, (start.run past).stage? member = some stage → stage.isOver = true) →
      (start.run past).stats.inFlight = 0) := by
  have sound := (create_sound created).run past
  have crewed := sound.crewed
  refine ⟨fun id flight tracked => ⟨?_, ?_, ?_⟩, ?_, fun event member flight drops id => ⟨?_, ?_⟩,
    crewed.inFlight_eq_zero⟩
  · obtain ⟨flown, found, ids, _⟩ := crewed.tracked tracked
    exact ⟨flown, found, ids⟩
  · exact List.length_pos_iff.mpr (crewed.holders_ne_nil tracked)
  · rw [crewed.references_eq tracked, Nat.add_comm]
  · intro member caller flight flown here on found opened current
    -- The caller is a member of its flight, which is tracked under the caller's identifier.
    obtain ⟨again, there, own⟩ := crewed.own here on
    rw [found] at there
    cases there
    have member := (crewed.members found member).mpr ⟨caller, here, on⟩
    rw [← own]
    exact crewed.tracks found current opened (List.ne_nil_of_mem member)
  · exact drops.table sound id
  · intro tracked there others
    exact drops.spares sound there others

/-- The build of two callers fails; before the second one looks, a third one starts over. -/
def supplanting (id : Identifier) (resource : ρ) : List (Event ρ) :=
  [.call id, .call id, .advance 0 resource, .advance 0 resource, .advance 0 resource,
    .advance 0 resource, .advance 1 resource, .finish 0 .overdue, .call id, .advance 2 resource]

open Evaluation in
/-- A caller that lets go of an old flight leaves the one that has taken its place alone. -/
theorem run_leaves_no_flight_supplanted :
    ∃ (start : Factory Repository) (resource : Repository),
      create 1 { seconds := 30, nanos := 0 } = .ok start ∧
        let now := start.run (supplanting resource.id resource)
        now.holders 0 = [1] ∧ now.table[resource.id]? = some 1 ∧ now.references 1 = 2 ∧
          Drops now (.advance 1 resource) 1 0 ∧
          (now.step (.advance 1 resource)).table[resource.id]? = some 1 ∧
          ((now.run [.advance 1 resource, .cancel 2]).stats.inFlight = 0) := by
  obtain ⟨start, created⟩ :
      ∃ start : Factory Repository, create 1 { seconds := 30, nanos := 0 } = .ok start := ⟨_, rfl⟩
  refine ⟨start, ⟨⟨"a.git"⟩, "/srv/a.git"⟩, created, ?_⟩
  intro now
  let late : FactoryError := .timedOut "a.git" { seconds := 30, nanos := 0 }
  have state : now.callers = #[⟨⟨"a.git"⟩, .refused late⟩, ⟨⟨"a.git"⟩, .joined 0⟩,
          ⟨⟨"a.git"⟩, .joined 1⟩] ∧
      (now.step (.advance 1 ⟨⟨"a.git"⟩, "/srv/a.git"⟩)).callers =
        #[⟨⟨"a.git"⟩, .refused late⟩, ⟨⟨"a.git"⟩, .refused late⟩, ⟨⟨"a.git"⟩, .joined 1⟩] ∧
      (now.run [.advance 1 ⟨⟨"a.git"⟩, "/srv/a.git"⟩, .cancel 2]).callers =
        #[⟨⟨"a.git"⟩, .refused late⟩, ⟨⟨"a.git"⟩, .refused late⟩, ⟨⟨"a.git"⟩, .cancelled⟩] ∧
      now.table[(⟨"a.git"⟩ : Identifier)]? = some 1 := by
    cases created
    simp [now, late, supplanting]
  obtain ⟨tracked, _, lets, _⟩ := run_leaves_no_flight created
    (supplanting ⟨"a.git"⟩ (⟨⟨"a.git"⟩, "/srv/a.git"⟩ : Repository))
  have none := (run_leaves_no_flight created
    (supplanting ⟨"a.git"⟩ (⟨⟨"a.git"⟩, "/srv/a.git"⟩ : Repository) ++
      [.advance 1 ⟨⟨"a.git"⟩, "/srv/a.git"⟩, .cancel 2])).2.2.2
  rw [run_append] at none
  obtain ⟨before, after, ended, table⟩ := state
  have held : now.holders 0 = [1] ∧ now.holders 1 = [2] := by
    unfold holders stage?
    rw [before]
    exact ⟨by decide, by decide⟩
  have drops : Drops now (.advance 1 ⟨⟨"a.git"⟩, "/srv/a.git"⟩) 1 0 := by
    refine ⟨by rw [held.1]; exact List.mem_singleton_self 1, ?_⟩
    unfold holders stage?
    rw [after]
    decide
  refine ⟨held.1, table, ?_, drops, ?_, none ?_⟩
  · have counted := (tracked _ _ table).2.2
    rw [held.2] at counted
    exact counted
  · -- Nobody else holds the old flight, but it is not the one in the table.
    exact (lets _ _ _ drops _).2 1 table (by simp)
  · intro member stage stands
    rw [stage?, ended] at stands
    rcases member with _ | _ | _ | later
    · cases stands
      rfl
    · cases stands
      rfl
    · cases stands
      rfl
    · simp at stands

end Drop

end PackGate.Factory
