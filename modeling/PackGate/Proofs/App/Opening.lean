import PackGate.App.Opening
import PackGate.App.Sequential
import PackGate.Proofs.App.Course
import PackGate.Proofs.Factory.Closing

/-! How an opening waits and goes on, and that opening a repository in one go is a case of it. -/

namespace PackGate.App

/-! ## Interference -/

/-- With an interference the factory makes a transition; a build that begins reads the shelf. -/
theorem disturb_transition (app : App) (interference : Interference) :
    ∃ happens, Factory.Transition app.factory happens (app.disturb interference).factory ∧
      Factory.Reads app.shelf app.factory happens := by
  -- Counting, logging and starting processes leave the factory's parts as they are.
  cases interference with
  | event event => exact (step_course app event).transition
  | record metrics journal =>
    exact ⟨.activate, .idle (.noted app.factory metrics journal), by simp [Factory.Reads]⟩
  | launch process => exact ⟨.activate, .idle (.refl _), by simp [Factory.Reads]⟩

/-- The identifier that an interference brings a lookup of. -/
def Interference.call? : Interference → Option Identifier
  | .event (.call id) => some id
  | .event _ | .record _ _ | .launch _ => none

/-- The process that an interference starts. -/
def Interference.launch? : Interference → Option Git.Launch
  | .launch process => some process
  | .event _ | .record _ _ => none

/-- An interference asks for what it brings a lookup of, and for nothing else. -/
theorem disturb_asked (app : App) (interference : Interference) :
    (app.disturb interference).factory.asked.toList =
      app.factory.asked.toList ++ interference.call?.toList := by
  cases interference with
  | event event =>
    cases event with
    | call id => simp [disturb, App.step, drive, Factory.step, Factory.asked, Interference.call?]
    | _ => simp [disturb, Interference.call?, (step_course app _).asked]
  | record | launch => simp [disturb, Interference.call?, Factory.asked]

/-- An interference starts its own process, and no other. -/
theorem disturb_launches (app : App) (interference : Interference) :
    (app.disturb interference).launches = app.launches ++ interference.launch?.toList := by
  cases interference with
  | event event => simp [disturb, Interference.launch?, (step_course app event).launches]
  | record | launch => simp [disturb, Interference.launch?]

/-- Interference with which no lookup comes and no process is started. -/
def Quiet (during : List Interference) : Prop :=
  ∀ interference ∈ during, interference.call? = none ∧ interference.launch? = none

/-- Quiet interference can go on quietly. -/
theorem Quiet.append {early late : List Interference} (first : Quiet early) (second : Quiet late) :
    Quiet (early ++ late) := fun interference member =>
  (List.mem_append.mp member).elim (first interference) (second interference)

/-- Where it is quiet nobody asks for anything and nothing is started. -/
theorem Quiet.nothing {met during : List Interference} (quiet : Quiet during)
    (early : met <+: during) :
    met.filterMap Interference.call? = [] ∧ met.filterMap Interference.launch? = [] :=
  ⟨List.filterMap_eq_nil_iff.mpr fun interference member =>
      (quiet interference (early.subset member)).1,
    List.filterMap_eq_nil_iff.mpr fun interference member =>
      (quiet interference (early.subset member)).2⟩

namespace Opening

/-! ## Waiting -/

/-- The caller of the lookup that an opening waits for. -/
def Stage.caller? : Stage → Option Nat
  | .looking _ caller | .trading caller => some caller
  | .done _ | .dropped => none

variable {opening : Opening}

/-- An opening that waits goes on where interference leaves the server. -/
theorem step_waits {caller : Nat} (waits : opening.stage.caller? = some caller)
    (interference : Interference) : opening.step interference =
      Opening.resume { opening with app := opening.app.disturb interference } := by
  -- The step asks for the stage alone, and both stages that wait are treated alike.
  obtain ⟨app, stage, lookups⟩ := opening
  cases stage with
  | looking | trading => rfl
  | done | dropped => cases waits

/-- An opening that is over stays as it is. -/
theorem run_over (ended : opening.stage.caller? = none) (during : List Interference) :
    opening.run during = opening := by
  induction during with
  | nil => rfl
  | cons first rest ih =>
    -- No step starts from a stage without a caller.
    have still : opening.step first = opening := by
      obtain ⟨app, stage, lookups⟩ := opening
      cases stage with
      | looking | trading => cases ended
      | done | dropped => rfl
    show (opening.step first).run rest = opening
    rw [still, ih]

/-- A run of an opening can be cut at any moment. -/
theorem run_append (opening : Opening) (early late : List Interference) :
    opening.run (early ++ late) = (opening.run early).run late :=
  List.foldl_append

/-- An opening that takes the answer of its lookup asks once more, or makes no difference. -/
theorem resume_cases {caller : Nat} (waits : opening.stage.caller? = some caller) :
    (∃ id, opening.resume = ask opening.app opening.lookups id .trading) ∨
      opening.resume.app = opening.app ∧ ∀ build, opening.resume.stage = .done (.ok build) →
        opening.app.factory.stage? caller = some (.served build) := by
  obtain ⟨app, stage, lookups⟩ := opening
  unfold Opening.resume
  -- Only a first lookup that has been served leads to another one.
  cases stage with
  | looking id =>
    cases waits
    dsimp only
    split
    · rename_i served
      split
      · exact .inl ⟨id, rfl⟩
      · exact .inr ⟨rfl, by rintro _ ⟨⟩; exact served⟩
    all_goals exact .inr ⟨rfl, by simp⟩
  | trading =>
    cases waits
    dsimp only
    split
    · rename_i served
      exact .inr ⟨rfl, by rintro _ ⟨⟩; exact served⟩
    all_goals exact .inr ⟨rfl, by simp⟩
  | done | dropped => cases waits

/-- What each step of an opening that waits keeps, with all that it has met, a run keeps. -/
theorem run_keeps (holds : List Interference → Opening → Prop)
    (keeps : ∀ {met : List Interference} {opening : Opening} {caller : Nat},
      opening.stage.caller? = some caller → holds met opening →
        ∀ interference, holds (met ++ [interference]) (opening.step interference))
    {met : List Interference} (now : holds met opening) (during : List Interference) :
    ∃ more, more <+: during ∧ holds (met ++ more) (opening.run during) := by
  -- The induction is on the interference, and an opening that is over meets with none of it.
  induction during generalizing opening met with
  | nil => exact ⟨[], List.prefix_rfl, by rwa [List.append_nil]⟩
  | cons first rest ih =>
    cases waits : opening.stage.caller? with
    | none =>
      rw [run_over waits]
      exact ⟨[], List.nil_prefix, by rwa [List.append_nil]⟩
    | some caller =>
      obtain ⟨more, early, last⟩ := ih (keeps waits now first)
      refine ⟨first :: more, (List.prefix_cons_inj first).mpr early, ?_⟩
      rwa [List.append_assoc] at last

/-! ## Lookups -/

/-- An opening that waits does so for a lookup that is going on. -/
def Rests (opening : Opening) : Prop :=
  ∀ caller, opening.stage.caller? = some caller →
    ∃ stage, opening.app.factory.stage? caller = some stage ∧ stage.isOver = false

/-- What has been asked for and started since an opening began, with what came between. -/
structure Account (before : App) (id : Identifier) (met : List Interference) (app : App)
    (lookups : List Nat) : Prop where
  /-- Its lookups have come since, and each asks for the identifier. -/
  asks : ∀ caller ∈ lookups, before.factory.callers.size ≤ caller ∧
    app.factory.asked[caller]? = some id
  /-- Apart from them only others have asked. -/
  asked : ∃ came, app.factory.asked.toList = before.factory.asked.toList ++ came ∧
    came.Perm (List.replicate lookups.length id ++ met.filterMap Interference.call?)
  /-- Only others have started processes. -/
  launches : app.launches = before.launches ++ met.filterMap Interference.launch?

/-- Where an opening for an identifier stands, by the latest of its lookups. -/
inductive Heeds (id : Identifier) (app : App) : Stage → List Nat → Prop where
  /-- It waits for its first lookup. -/
  | looking {caller : Nat} : Heeds id app (.looking id caller) [caller]
  /-- It waits for its second lookup. -/
  | trading {first caller : Nat} : Heeds id app (.trading caller) [first, caller]
  /-- It hands out what its latest lookup was served with. -/
  | served {lookups : List Nat} {caller build : Nat} (few : lookups.length ≤ 2)
      (latest : lookups.getLast? = some caller)
      (here : app.factory.stage? caller = some (.served build)) :
      Heeds id app (.done (.ok build)) lookups
  /-- It answers the error that its latest lookup was refused with. -/
  | refused {lookups : List Nat} {caller : Nat} {error : FactoryError} (few : lookups.length ≤ 2)
      (latest : lookups.getLast? = some caller)
      (here : app.factory.stage? caller = some (.refused error)) :
      Heeds id app (.done (.error error)) lookups
  /-- It has been given up together with its latest lookup. -/
  | dropped {lookups : List Nat} {caller : Nat} (few : lookups.length ≤ 2)
      (latest : lookups.getLast? = some caller)
      (here : app.factory.stage? caller = some .cancelled) :
      Heeds id app .dropped lookups

/-- An opening that has asked for an identifier since it began, and for no other. -/
structure Asks (before : App) (id : Identifier) (met : List Interference) (opening : Opening) :
    Prop where
  /-- All that has been asked for is accounted for. -/
  account : Account before id met opening.app opening.lookups
  /-- The latest lookup tells where the opening stands. -/
  heeds : Heeds id opening.app opening.stage opening.lookups

section Asking

variable {before app : App} {id : Identifier} {met : List Interference} {lookups : List Nat}

/-- An opening that has asked nothing yet has an empty account. -/
theorem Account.refl (app : App) (id : Identifier) : Account app id [] app [] :=
  ⟨by simp, ⟨[], by simp⟩, by simp⟩

/-- Interference is entered in the account. -/
theorem Account.disturb (account : Account before id met app lookups)
    (interference : Interference) :
    Account before id (met ++ [interference]) (app.disturb interference) lookups := by
  obtain ⟨happens, transition, _⟩ := disturb_transition app interference
  obtain ⟨came, asked, balance⟩ := account.asked
  refine ⟨fun caller member => ?_, ⟨came ++ interference.call?.toList, ?_, ?_⟩, ?_⟩
  · exact (account.asks caller member).imp_right transition.asks
  · rw [disturb_asked, asked, List.append_assoc]
  · -- Whoever comes with the interference asks behind all others.
    rw [List.filterMap_append, ← List.append_assoc]
    refine balance.append ?_
    cases called : interference.call? <;> simp [called]
  · rw [disturb_launches, account.launches, List.filterMap_append, List.append_assoc]
    cases started : interference.launch? <;> simp [started]

/-- One more lookup is entered in the account. -/
theorem Account.ask (account : Account before id met app lookups) (waits : Nat → Stage) :
    Account before id met (ask app lookups id waits).app (ask app lookups id waits).lookups := by
  obtain ⟨came, asked, balance⟩ := account.asked
  -- A lookup of one's own comes like one of somebody else.
  have called := disturb_asked app (.event (.call id))
  refine ⟨fun caller member => ?_, ⟨came ++ [id], ?_, ?_⟩, ?_⟩
  · rcases List.mem_append.mp member with old | new
    · exact (account.asks caller old).imp_right
        (Factory.step_transition app.factory (.call id)).asks
    · -- The new caller comes behind all those that have come since the beginning.
      rw [List.mem_singleton.mp new]
      refine ⟨?_, Factory.asked_of_caller (Factory.new_caller app.factory id)⟩
      have size := congrArg List.length asked
      simp only [Factory.asked, Array.toList_map, List.length_append, List.length_map,
        Array.length_toList] at size
      omega
  · refine called.trans ?_
    rw [asked, List.append_assoc]
    rfl
  · show (came ++ [id]).Perm (List.replicate (lookups ++ [app.factory.callers.size]).length id ++ _)
    rw [List.length_append, List.length_singleton, List.replicate_succ, List.cons_append]
    exact (List.perm_append_singleton id came).trans (balance.cons id)
  · exact account.launches

/-- A lookup that has just begun is going on. -/
theorem rests_ask (app : App) (lookups : List Nat) (id : Identifier) {waits : Nat → Stage}
    (waiting : ∀ caller, (waits caller).caller? = some caller) :
    Rests (ask app lookups id waits) := by
  -- The new caller is about to enter.
  intro caller here
  have same : app.factory.callers.size = caller :=
    Option.some.inj ((waiting app.factory.callers.size).symm.trans here)
  have new : (ask app lookups id waits).app.factory.callers[caller]? = some { id } :=
    same ▸ Factory.new_caller app.factory id
  exact ⟨.entering, Factory.stage?_of_caller new rfl, rfl⟩

/-- An opening begins with one lookup of the identifier that its path resolves to. -/
theorem asks_begin {text : String} (resolved : resolve (some text) = .ok id) :
    Asks app id [] (begin app text) ∧ Rests (begin app text) := by
  have began : begin app text = ask app [] id (.looking id) := by
    unfold begin
    rw [resolved]
  rw [began]
  exact ⟨⟨(Account.refl app id).ask _, .looking⟩, rests_ask app [] id fun _ => rfl⟩

variable {opening : Opening}

/-- Where an opening waits for a lookup, this is its latest one. -/
theorem Asks.latest (asks : Asks before id met opening) {caller : Nat}
    (waits : opening.stage.caller? = some caller) : opening.lookups.getLast? = some caller := by
  obtain ⟨app, stage, lookups⟩ := opening
  obtain ⟨_, heeds⟩ := asks
  cases heeds <;> cases waits <;> rfl

/-- It is a lookup of the identifier. -/
theorem Asks.awaited (asks : Asks before id met opening) {caller : Nat}
    (waits : opening.stage.caller? = some caller) :
    opening.app.factory.asked[caller]? = some id :=
  (asks.account.asks caller (List.mem_of_getLast? (asks.latest waits))).2

/-- Interference leaves an opening that waits where it stands. -/
theorem Asks.disturb (asks : Asks before id met opening) {caller : Nat}
    (waits : opening.stage.caller? = some caller) (interference : Interference) :
    Asks before id (met ++ [interference])
      { opening with app := opening.app.disturb interference } := by
  obtain ⟨app, stage, lookups⟩ := opening
  obtain ⟨account, heeds⟩ := asks
  refine ⟨account.disturb interference, ?_⟩
  -- What is known of an opening that waits is not about the server.
  cases heeds with
  | looking => exact .looking
  | trading => exact .trading
  | served | refused | dropped => cases waits

/-- A caller that has come to none of the ends of a lookup is going on. -/
theorem going_on {caller : Nat} (asks : app.factory.asked[caller]? = some id)
    (unserved : ∀ build, app.factory.stage? caller ≠ some (.served build))
    (unrefused : ∀ error, app.factory.stage? caller ≠ some (.refused error))
    (stays : app.factory.stage? caller ≠ some .cancelled) :
    ∃ stage, app.factory.stage? caller = some stage ∧ stage.isOver = false := by
  obtain ⟨known, here, _⟩ := Factory.caller_of_asked asks
  have stands : app.factory.stage? caller = some known.stage := Factory.stage?_of_caller here rfl
  refine ⟨known.stage, stands, ?_⟩
  cases going : known.stage with
  | served build => exact absurd (stands.trans (congrArg some going)) (unserved build)
  | refused error => exact absurd (stands.trans (congrArg some going)) (unrefused error)
  | cancelled => exact absurd (stands.trans (congrArg some going)) stays
  | entering | activating | joined | building | checking => rfl

/-- An opening that has taken the answer of its lookup waits for nothing that is over. -/
theorem Asks.resume (asks : Asks before id met opening) :
    Asks before id met opening.resume ∧ Rests opening.resume := by
  obtain ⟨app, stage, lookups⟩ := opening
  have still := asks
  obtain ⟨account, heeds⟩ := asks
  unfold Opening.resume
  cases heeds with
  | @looking caller =>
    dsimp only
    split
    · rename_i build served
      -- A repository that comes released is asked for once more.
      split
      · exact ⟨⟨account.ask .trading, .trading⟩, rests_ask app _ id fun _ => rfl⟩
      · exact ⟨⟨account, .served (by simp) rfl served⟩, fun _ waits => nomatch waits⟩
    · rename_i error refused
      exact ⟨⟨account, .refused (by simp) rfl refused⟩, fun _ waits => nomatch waits⟩
    · rename_i gone
      exact ⟨⟨account, .dropped (by simp) rfl gone⟩, fun _ waits => nomatch waits⟩
    · rename_i unserved unrefused stays
      refine ⟨still, ?_⟩
      rintro _ ⟨⟩
      exact going_on (still.awaited rfl) unserved unrefused stays
  | @trading first caller =>
    dsimp only
    split
    · rename_i build served
      exact ⟨⟨account, .served (by simp) rfl served⟩, fun _ waits => nomatch waits⟩
    · rename_i error refused
      exact ⟨⟨account, .refused (by simp) rfl refused⟩, fun _ waits => nomatch waits⟩
    · rename_i gone
      exact ⟨⟨account, .dropped (by simp) rfl gone⟩, fun _ waits => nomatch waits⟩
    · rename_i unserved unrefused stays
      refine ⟨still, ?_⟩
      rintro _ ⟨⟩
      exact going_on (still.awaited rfl) unserved unrefused stays
  | served | refused | dropped => exact ⟨still, fun _ waits => nomatch waits⟩

/-- A step of an opening that waits is one more thing that it has met with. -/
theorem Asks.step (asks : Asks before id met opening) {caller : Nat}
    (waits : opening.stage.caller? = some caller) (interference : Interference) :
    Asks before id (met ++ [interference]) (opening.step interference) ∧
      Rests (opening.step interference) := by
  rw [step_waits waits]
  exact (asks.disturb waits interference).resume

/-- Over every run an opening asks for its identifier alone, as long as it has not ended. -/
theorem Asks.run (asks : Asks before id met opening) (rests : Rests opening)
    (during : List Interference) :
    ∃ more, more <+: during ∧ Asks before id (met ++ more) (opening.run during) ∧
      Rests (opening.run during) :=
  run_keeps (fun met opening => Asks before id met opening ∧ Rests opening)
    (fun waits now interference => now.1.step waits interference) ⟨asks, rests⟩ during

/-- An opening asks once or twice. -/
theorem Asks.few (asks : Asks before id met opening) :
    0 < opening.lookups.length ∧ opening.lookups.length ≤ 2 := by
  obtain ⟨app, stage, lookups⟩ := opening
  obtain ⟨_, heeds⟩ := asks
  -- Where there is a latest lookup there is one.
  have some {caller : Nat} (latest : lookups.getLast? = some caller) : 0 < lookups.length := by
    rw [List.length_pos_iff]
    rintro rfl
    cases latest
  cases heeds with
  | looking | trading => simp
  | served few latest | refused few latest | dropped few latest => exact ⟨some latest, few⟩

/-- Where nobody else asks, all that is asked for meanwhile is the identifier of the opening. -/
theorem Account.alone (account : Account before id met app lookups)
    (nobody : met.filterMap Interference.call? = []) :
    app.factory.asked = before.factory.asked ++ Array.replicate lookups.length id := by
  obtain ⟨came, asked, balance⟩ := account.asked
  rw [nobody, List.append_nil] at balance
  -- Copies of one identifier can be put in one order only.
  rw [List.perm_replicate.mp balance] at asked
  apply Array.toList_inj.mp
  rw [asked, Array.toList_append, Array.toList_replicate]

end Asking

/-! ## Opening in one go -/

/-- The answer of a lookup is where its caller stands, if that is an answer. -/
theorem get_cases (app : App) (files : FileSystem) (id : Identifier) :
    (∃ build, (app.get files id).2.factory.stage? app.factory.callers.size = some (.served build) ∧
        (app.get files id).1 = some (.ok build)) ∨
      (∃ error, (app.get files id).2.factory.stage? app.factory.callers.size =
          some (.refused error) ∧ (app.get files id).1 = some (.error error)) ∨
        (app.get files id).2.factory.Unanswered app.factory.callers.size ∧
          (app.get files id).1 = none :=
  Factory.get_cases app.factory (app.shelf.work files) id

/-- An opening waits as long as its lookup has another stretch to run. -/
theorem resume_waits {caller : Nat} {work : Factory.Work Repository} {next : Factory Repository}
    (waits : opening.stage.caller? = some caller)
    (goes : opening.app.factory.proceed? caller work = some next) :
    opening.resume = opening := by
  obtain ⟨app, stage, lookups⟩ := opening
  -- A lookup that has been answered has no stretch left.
  obtain ⟨known, here, going⟩ : ∃ known, app.factory.stage? caller = some known ∧
      known.isOver = false := by
    rcases Factory.stretch_cases goes with ⟨_, _, here, _⟩ | ⟨known, here, stands, _⟩
    · exact ⟨_, here, rfl⟩
    · refine ⟨known, here, ?_⟩
      rcases stands with rfl | rfl | ⟨_, rfl⟩ | ⟨_, _, rfl⟩ <;> rfl
  -- Both stages that wait pass over a lookup that is going on.
  cases stage with
  | looking | trading =>
    cases waits
    cases known with
    | served | refused | cancelled => cases going
    | entering | activating | joined | building | checking => simp only [Opening.resume, here]
  | done | dropped => cases waits

/-- The next stretch of a lookup is interference with the opening that waits for it. -/
theorem run_stretch {caller : Nat} {id : Identifier} {files : FileSystem}
    {next : Factory Repository} (waits : opening.stage.caller? = some caller)
    (asks : opening.app.factory.asked[caller]? = some id)
    (goes : opening.app.factory.proceed? caller (opening.app.shelf.work files id) = some next) :
    ∃ during, Quiet during ∧ opening.run during =
      Opening.resume { opening with app := { opening.app with factory := next } } := by
  rcases Factory.stretch_cases goes with ⟨flight, build, here, rfl⟩ | ⟨stage, _, _, rfl⟩
  · -- What the builder logs comes first, and leaves the opening waiting.
    let work := opening.app.shelf.work files id
    let journal := opening.app.factory.journal ++ work.notices
    let noted : Opening := { opening with
      app := { opening.app with factory := { opening.app.factory with journal } } }
    have still : noted.resume = noted := by
      have stands : noted.app.factory.stage? caller = some (.building flight build) := here
      have going : noted.app.factory.proceed? caller work =
          some ((work.notices.foldl Factory.note noted.app.factory).step
            (.finish caller work.outcome)) := by
        rw [Factory.proceed?, stands]
      exact resume_waits waits going
    have notes : opening.step (.record opening.app.factory.metrics journal) = noted :=
      (step_waits waits _).trans still
    -- Then the build ends.
    refine ⟨[.record opening.app.factory.metrics journal,
      .event (.finish caller work.outcome)],
      by simp [Quiet, Interference.call?, Interference.launch?], ?_⟩
    show (opening.step (.record opening.app.factory.metrics journal)).step
      (.event (.finish caller work.outcome)) = _
    rw [notes]
    exact @step_waits noted caller waits _
  · -- A build that begins is of the repository of the identifier that the caller asks for.
    obtain ⟨known, here, rfl⟩ := Factory.caller_of_asked asks
    refine ⟨[.event (.advance caller)],
      by simp [Quiet, Interference.call?, Interference.launch?], ?_⟩
    show opening.step (.event (.advance caller)) = _
    rw [step_waits waits]
    show Opening.resume { opening with app := opening.app.advance caller } = _
    unfold advance
    rw [here]
    rfl

/-- A lookup that runs on is interference with the opening that waits for it. -/
theorem run_proceed {caller : Nat} {id : Identifier} {files : FileSystem}
    (waits : opening.stage.caller? = some caller)
    (asks : opening.app.factory.asked[caller]? = some id) (limit : Nat)
    (goes : (opening.app.factory.proceed? caller (opening.app.shelf.work files id)).isSome) :
    ∃ during, Quiet during ∧ opening.run during = Opening.resume { opening with
      app := { opening.app with
        factory := Factory.proceed caller (opening.app.shelf.work files id) limit
          opening.app.factory } } := by
  -- The induction is on the stretches, and it carries that the lookup has one more to run.
  induction limit generalizing opening with
  | zero =>
    obtain ⟨next, goes⟩ := Option.isSome_iff_exists.mp goes
    exact ⟨[], by simp [Quiet], (resume_waits waits goes).symm⟩
  | succ limit ih =>
    obtain ⟨next, goes⟩ := Option.isSome_iff_exists.mp goes
    let after : Opening := { opening with app := { opening.app with factory := next } }
    obtain ⟨early, calm, first⟩ : ∃ early, Quiet early ∧ opening.run early = after.resume :=
      run_stretch waits asks goes
    rw [Factory.proceed, goes]
    cases further : after.app.factory.proceed? caller (after.app.shelf.work files id) with
    | none =>
      -- A lookup that has no stretch left stays where it is.
      have ends : Factory.proceed caller (opening.app.shelf.work files id) limit next = next := by
        cases limit with
        | zero => rfl
        | succ limit =>
          have last : next.proceed? caller (opening.app.shelf.work files id) = none := further
          rw [Factory.proceed, last]
      dsimp only
      rw [ends]
      exact ⟨early, calm, first⟩
    | some last =>
      have same : after.app.factory.asked[caller]? = some id :=
        (congrArg (·[caller]?) (Factory.stretch_asked goes)).trans asks
      obtain ⟨late, quiet, rest⟩ := @ih after waits same (Option.isSome_of_eq_some further)
      have still : after.resume = after := resume_waits waits further
      refine ⟨early ++ late, calm.append quiet, ?_⟩
      rw [run_append, first, still]
      exact rest

/-- A lookup that runs from its start is interference with the opening that has started it. -/
theorem run_ask (app : App) (files : FileSystem) (lookups : List Nat) (id : Identifier)
    (waits : Nat → Stage) (waiting : ∀ caller, (waits caller).caller? = some caller) :
    ∃ during, Quiet during ∧ (ask app lookups id waits).run during = Opening.resume
      { app := (app.get files id).2
        stage := waits app.factory.callers.size
        lookups := lookups ++ [app.factory.callers.size] } := by
  -- The new caller is about to enter, so it has a stretch to run.
  have new := Factory.new_caller app.factory id
  have goes : ((app.factory.step (.call id)).proceed? app.factory.callers.size
      (app.shelf.work files id)).isSome = true := by
    rw [Factory.proceed?, Factory.stage?, new]
    rfl
  have asks : (ask app lookups id waits).app.factory.asked[app.factory.callers.size]? = some id :=
    Factory.asked_of_caller new
  obtain ⟨during, quiet, runs⟩ := run_proceed (waiting _) asks Factory.longestLookup goes
  -- The lookup is these stretches and nothing else.
  refine ⟨during, quiet, runs.trans ?_⟩
  have after : (app.get files id).2 =
      { app with factory := (app.factory.get (app.shelf.work files) id).2 } := rfl
  rw [after, Factory.get_after]
  rfl

/-- An opening has no answer as long as the lookup that it waits for has none. -/
theorem resume_unanswered {caller : Nat} (waits : opening.stage.caller? = some caller)
    (unanswered : opening.app.factory.Unanswered caller) :
    opening.resume.app = opening.app ∧ ∀ answer, opening.resume.stage ≠ .done answer := by
  obtain ⟨app, stage, lookups⟩ := opening
  obtain ⟨unserved, unrefused⟩ := unanswered
  unfold Opening.resume
  cases stage with
  | looking | trading =>
    cases waits
    dsimp only
    -- Of the ends of a lookup only going away is left.
    split
    · rename_i served
      exact absurd served (unserved _)
    · rename_i refused
      exact absurd refused (unrefused _)
    · exact ⟨rfl, by simp⟩
    · exact ⟨rfl, by simp⟩
  | done | dropped => cases waits

/-- After its second lookup an opening has the answer of that lookup, whichever it is. -/
theorem resume_second (app : App) (files : FileSystem) (id : Identifier) (lookups : List Nat) :
    let opening : Opening :=
      { app := (app.get files id).2, stage := .trading app.factory.callers.size, lookups }
    opening.resume.app = (app.get files id).2 ∧
      ∀ answer, opening.resume.stage = .done answer ↔ (app.get files id).1 = some answer := by
  have stands := get_cases app files id
  generalize app.get files id = reply at stands ⊢
  obtain ⟨answer, last⟩ := reply
  dsimp only at stands ⊢
  rcases stands with ⟨build, served, rfl⟩ | ⟨error, refused, rfl⟩ | ⟨unanswered, rfl⟩
  · simp [Opening.resume, served]
  · simp [Opening.resume, refused]
  · obtain ⟨same, unended⟩ :=
      @resume_unanswered ⟨last, .trading app.factory.callers.size, lookups⟩ _ rfl unanswered
    exact ⟨same, fun answer => iff_of_false (unended answer) (by simp)⟩

/-- Opening a repository in one go is one of the ways in which it can be opened. -/
theorem run_openRepository (app : App) (files : FileSystem) (path : String) :
    ∃ during, Quiet during ∧
      ((begin app path).run during).app = (app.openRepository files path).2 ∧
      ∀ answer, ((begin app path).run during).stage = .done answer ↔
        (app.openRepository files path).1 = some answer := by
  unfold begin openRepository
  cases resolve (some path) with
  | error error => exact ⟨[], by simp [Quiet], rfl, fun answer => by simp [Opening.run]⟩
  | ok id =>
    -- The first lookup is a run of its own, and what comes next depends on its answer.
    dsimp only
    obtain ⟨early, calm, first⟩ := run_ask app files [] id (.looking id) fun _ => rfl
    have stands := get_cases app files id
    generalize app.get files id = reply at first stands ⊢
    obtain ⟨answer, next⟩ := reply
    rcases stands with ⟨build, served, rfl⟩ | ⟨error, refused, rfl⟩ | ⟨unanswered, rfl⟩
    · dsimp only at first served ⊢
      by_cases released : next.factory.isReleased build = true
      · -- The repository has been released, so a second lookup decides.
        have traded : (ask app [] id (.looking id)).run early =
            ask next [app.factory.callers.size] id .trading := by
          rw [first]
          simp [Opening.resume, served, released]
        obtain ⟨late, quiet, second⟩ := run_ask next files [app.factory.callers.size] id .trading
          fun _ => rfl
        rw [if_pos released]
        refine ⟨early ++ late, calm.append quiet, ?_⟩
        rw [run_append, traded, second]
        exact resume_second next files id _
      · -- The first lookup has brought a repository that can be used.
        rw [if_neg released]
        refine ⟨early, calm, ?_⟩
        rw [first]
        simp [Opening.resume, served, released]
    · dsimp only at refused
      refine ⟨early, calm, ?_⟩
      rw [first]
      simp [Opening.resume, refused]
    · -- Without an answer the opening has got no further than the lookup.
      refine ⟨early, calm, ?_⟩
      rw [first]
      obtain ⟨same, unended⟩ :=
        @resume_unanswered ⟨next, .looking id app.factory.callers.size, _⟩ _ rfl unanswered
      exact ⟨same, fun answer => iff_of_false (unended answer) (by simp)⟩

/-- Opening a repository asks for it once or twice. -/
theorem openRepository_asks (app : App) (files : FileSystem) {path : String} {id : Identifier}
    (resolved : resolve (some path) = .ok id) :
    ∃ times, 0 < times ∧ times ≤ 2 ∧ (app.openRepository files path).2.factory.asked =
      app.factory.asked ++ Array.replicate times id := by
  -- Opening in one go is quiet, so nobody else asks meanwhile.
  obtain ⟨during, quiet, same, _⟩ := run_openRepository app files path
  obtain ⟨begun, rests⟩ := @asks_begin app id path resolved
  obtain ⟨met, early, asks, _⟩ := begun.run rests during
  obtain ⟨some, few⟩ := asks.few
  exact ⟨_, some, few, same ▸ asks.account.alone (quiet.nothing early).1⟩

/-- Opening a repository starts no process. -/
theorem openRepository_launches (app : App) (files : FileSystem) {path : String} {id : Identifier}
    (resolved : resolve (some path) = .ok id) :
    (app.openRepository files path).2.launches = app.launches := by
  obtain ⟨during, quiet, same, _⟩ := run_openRepository app files path
  obtain ⟨begun, rests⟩ := @asks_begin app id path resolved
  obtain ⟨met, early, asks, _⟩ := begun.run rests during
  -- Opening in one go is quiet, so nobody else starts any either.
  have launches := asks.account.launches
  rwa [List.nil_append, (quiet.nothing early).2, List.append_nil, same] at launches

/-- What it hands out is what a caller for the identifier was served with. -/
theorem openRepository_served (app : App) (files : FileSystem) {path : String} {id : Identifier}
    (resolved : resolve (some path) = .ok id) {build : Nat}
    (answered : (app.openRepository files path).1 = some (.ok build)) :
    ∃ caller : Nat, (app.openRepository files path).2.factory.callers[caller]? =
      some ⟨id, .served build⟩ := by
  obtain ⟨during, _, same, ends⟩ := run_openRepository app files path
  obtain ⟨begun, rests⟩ := @asks_begin app id path resolved
  obtain ⟨met, _, asks, _⟩ := begun.run rests during
  obtain ⟨account, heeds⟩ := asks
  rw [(ends (.ok build)).mpr answered] at heeds
  rw [← same]
  cases heeds with
  | @served _ caller _ _ latest stands =>
    -- The caller is one of the lookups, and they all ask for the identifier.
    obtain ⟨_, asked⟩ := account.asks caller (List.mem_of_getLast? latest)
    exact ⟨caller, Factory.caller_of_stage asked stands⟩

end PackGate.App.Opening
