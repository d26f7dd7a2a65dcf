import PackGate.Http.Exchange
import PackGate.Proofs.App.Opening

/-! What a request comes to whose repository is opened while other things happen. -/

namespace PackGate.Http

/-! ## Effects -/

/-- Nothing changed but the log. -/
def Undisturbed (app after : App) : Prop :=
  ∃ journal, after = { app with factory := { app.factory with journal } }

/-- A request that failed leaves all but the log as it is. -/
theorem fail_undisturbed (app : App) (failure : Failure) :
    Undisturbed app (fail app failure).2 :=
  ⟨_, App.foldl_note app failure.notices⟩

/-- The response that git comes to in a place. -/
def Errand.response (errand : Errand) (host : Host) (place : String) : Response :=
  match errand.result host.git place with
  | .error report => (Failure.internal report).response
  | .ok bytes => errand.answer bytes

/-- Running an errand starts its process where the repository lies, and changes the log besides. -/
theorem Errand.run_launches (errand : Errand) (host : Host) (app : App) (build : Nat) :
    (errand.run host app build).1 = errand.response host (app.repositoryPath build) ∧
      Undisturbed
        { app with launches := app.launches ++ [errand.process (app.repositoryPath build)] }
        (errand.run host app build).2 := by
  -- What is logged before the start comes first, whatever git comes to.
  unfold Errand.run Errand.response
  rw [App.foldl_note]
  dsimp only
  cases errand.result host.git (app.repositoryPath build) with
  | error report =>
    -- A process that comes to nothing is told in the log as well.
    refine ⟨rfl, ?_⟩
    dsimp only
    rw [fail, App.foldl_note]
    exact ⟨_, rfl⟩
  | ok bytes => exact ⟨rfl, _, rfl⟩

/-- What a request comes to, by how far the latest of its lookups has come. -/
inductive Outcome (host : Host) (errand : Errand) (opening : App.Opening) :
    Factory.Stage → Exchange → Prop where
  /-- It waits as long as the lookup goes on. -/
  | waits {stage : Factory.Stage} (going : stage.isOver = false) :
      Outcome host errand opening stage (.waiting errand opening)
  /-- It is given up together with the lookup. -/
  | dropped : Outcome host errand opening .cancelled (.dropped opening.app)
  /-- The error of the lookup is answered, and git is not started. -/
  | refused {error : FactoryError} {after : App} (undisturbed : Undisturbed opening.app after) :
      Outcome host errand opening (.refused error)
        (.answered (Failure.factory error).response after)
  /-- Git is started once, where the repository lies that the lookup was served with. -/
  | served {build : Nat} {after : App}
      (launched : Undisturbed
        { opening.app with
          launches :=
            opening.app.launches ++ [errand.process (opening.app.repositoryPath build)] }
        after) :
      Outcome host errand opening (.served build)
        (.answered (errand.response host (opening.app.repositoryPath build)) after)

/--
A request has reached the factory, and git as far as the factory led there.

Its lookups are for one repository, and what comes of the latest one is all that comes of it.
-/
structure Opens (host : Host) (app : App) (errand : Errand) (id : Identifier)
    (during : List App.Interference) (opening : App.Opening) (exchange : Exchange) : Prop where
  /-- The factory was asked once or twice. -/
  few : 0 < opening.lookups.length ∧ opening.lookups.length ≤ 2
  /-- It was asked for the repository, and for no other; the rest is what others have done. -/
  account : ∃ met, met <+: during ∧
    App.Opening.Account app id met opening.app opening.lookups
  /-- The request comes to what its latest lookup comes to. -/
  outcome : ∃ caller stage, opening.lookups.getLast? = some caller ∧
    opening.app.factory.callers[caller]? = some ⟨id, stage⟩ ∧
      Outcome host errand opening stage exchange

/-! ## Exchanges -/

namespace Exchange

/-- A request that has been answered stays so. -/
theorem run_answered (host : Host) (response : Response) (app : App)
    (during : List App.Interference) :
    (Exchange.answered response app).run host during = .answered response app := by
  -- Every step leaves an answered request alone.
  induction during with
  | nil => rfl
  | cons first rest ih => exact ih

/-- A request goes on as the opening of its repository does. -/
theorem run_settle (host : Host) (errand : Errand) (opening : App.Opening)
    (during : List App.Interference) :
    (settle host errand opening).run host during = settle host errand (opening.run during) := by
  -- The induction is on the interference, one step of the request for one of the opening.
  induction during generalizing opening with
  | nil => rfl
  | cons first rest ih =>
    -- Only an opening that waits makes a step, and so does its request.
    have same : (settle host errand opening).step host first =
        settle host errand (opening.step first) := by
      obtain ⟨app, stage, lookups⟩ := opening
      cases stage <;> rfl
    show ((settle host errand opening).step host first).run host rest = _
    rw [same]
    exact ih (opening.step first)

/-- A request whose repository is being opened comes to what the latest lookup comes to. -/
theorem settle_outcome (host : Host) (errand : Errand) {before : App} {id : Identifier}
    {met : List App.Interference} {opening : App.Opening}
    (asks : App.Opening.Asks before id met opening) (rests : App.Opening.Rests opening) :
    ∃ caller stage, opening.lookups.getLast? = some caller ∧
      opening.app.factory.callers[caller]? = some ⟨id, stage⟩ ∧
        Outcome host errand opening stage (settle host errand opening) := by
  -- The latest lookup is one for the identifier, wherever its caller stands.
  have caller_at {caller : Nat} {stage : Factory.Stage}
      (latest : opening.lookups.getLast? = some caller)
      (stands : opening.app.factory.stage? caller = some stage) :
      opening.app.factory.callers[caller]? = some ⟨id, stage⟩ :=
    Factory.caller_of_stage (asks.account.asks caller (List.mem_of_getLast? latest)).2 stands
  cases waits : opening.stage.caller? with
  | some caller =>
    -- An opening waits for a lookup that goes on, and its request waits with it.
    obtain ⟨stage, stands, going⟩ := rests caller waits
    have latest := asks.latest waits
    refine ⟨caller, stage, latest, caller_at latest stands, ?_⟩
    obtain ⟨app, stage, lookups⟩ := opening
    cases stage with
    | looking | trading => exact .waits going
    | done | dropped => cases waits
  | none =>
    -- An opening that is over has taken the end of its latest lookup.
    have heeds := asks.heeds
    obtain ⟨app, stage, lookups⟩ := opening
    cases heeds with
    | looking | trading => cases waits
    | @served _ caller build _ latest stands =>
      refine ⟨caller, _, latest, caller_at latest stands, ?_⟩
      -- Only here git is started, and where it is started the build tells.
      obtain ⟨answer, launched⟩ := errand.run_launches host app build
      have settled : settle host errand ⟨app, .done (.ok build), lookups⟩ =
          .answered (errand.run host app build).1 (errand.run host app build).2 := rfl
      rw [settled, answer]
      exact .served launched
    | @refused _ caller error _ latest stands =>
      exact ⟨caller, _, latest, caller_at latest stands, .refused (fail_undisturbed app _)⟩
    | @dropped _ caller _ latest stands =>
      exact ⟨caller, _, latest, caller_at latest stands, .dropped⟩

/-- A request that is to be served reaches the factory, whatever happens meanwhile. -/
theorem settle_opens (host : Host) (app : App) (errand : Errand) {path : String}
    {id : Identifier} (resolved : resolve (some path) = .ok id)
    (during : List App.Interference) :
    let opening := App.Opening.begin (app.count (·.countRequest errand.label)) path
    Opens host app errand id during (opening.run during)
      ((settle host errand opening).run host during) := by
  intro opening
  obtain ⟨begun, rests⟩ :=
    @App.Opening.asks_begin (app.count (·.countRequest errand.label)) id path resolved
  obtain ⟨met, early, asks, settled⟩ := begun.run rests during
  rw [run_settle]
  -- Counting the request leaves callers and processes as they are.
  obtain ⟨lookups, asked, launches⟩ := asks.account
  exact ⟨asks.few, ⟨met, early, lookups, asked, launches⟩,
    settle_outcome host errand asks settled⟩

end Exchange

/-- Answering a request in one go is one of the ways in which it can be answered. -/
theorem follow_runs (host : Host) (app : App) (path : String) (errand : Errand)
    (decision : Decision) :
    let exchange := Exchange.begin host app path errand decision
    let reply := follow host app path errand decision
    ∃ during, App.Quiet during ∧ (exchange.run host during).app = reply.2 ∧
      ∀ response, exchange.run host during = .answered response reply.2 ↔
        reply.1 = some response := by
  intro exchange reply
  cases turned : decision.turnDown? app path with
  | some refusal =>
    -- A request that is turned down is answered at once.
    have begun : exchange = .answered refusal.1 refusal.2 := by
      simp only [exchange, Exchange.begin, turned]
    have replied : reply = (some refusal.1, refusal.2) := by
      simp only [reply, follow, turned]
    rw [begun, replied]
    exact ⟨[], by simp [App.Quiet], rfl, fun response => by simp [Exchange.run]⟩
  | none =>
    obtain ⟨during, quiet, same, ends⟩ := App.Opening.run_openRepository
      (app.count (·.countRequest errand.label)) host.files path
    have begun : exchange = .settle host errand
        (.begin (app.count (·.countRequest errand.label)) path) := by
      simp only [exchange, Exchange.begin, turned]
    -- Both come to the same answer on the same server, and go on from there in the same way.
    refine ⟨during, quiet, ?_⟩
    rw [begun, Exchange.run_settle]
    simp only [reply, follow, turned]
    generalize (app.count (·.countRequest errand.label)).openRepository host.files path = result
      at same ends ⊢
    generalize (App.Opening.begin _ path).run during = opening at same ends ⊢
    obtain ⟨answer, next⟩ := result
    obtain ⟨_, stage, lookups⟩ := opening
    cases same
    cases answer with
    | none =>
      -- Without an answer the opening is not over, or has been given up.
      cases stage with
      | done answer => cases (ends answer).mp rfl
      | looking | trading | dropped => exact ⟨rfl, by simp [Exchange.settle]⟩
    | some answer =>
      obtain rfl : stage = .done answer := (ends answer).mpr rfl
      exact ⟨rfl, by simp [Exchange.settle]⟩

end PackGate.Http
