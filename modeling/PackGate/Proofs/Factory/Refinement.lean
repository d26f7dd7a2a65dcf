import PackGate.Cache.Operation
import PackGate.Proofs.Context.Alone
import PackGate.Proofs.Factory.Invariant
import PackGate.Proofs.Factory.Solitary
import PackGate.Repository

/-! Calls that come one after the other are answered by a factory as by its register. -/

namespace PackGate.Factory

variable {ρ : Type}

variable [Releasable ρ]

/-! ## Ends -/

/-- Emptying the cache forgets every flight. -/
theorem releaseAll_table (factory : Factory ρ) : factory.releaseAll.2.table.size = 0 := by
  rw [(releaseAll_frame factory).1.table]
  exact Std.HashMap.size_empty

namespace Rests

variable {factory : Factory ρ} {register : Register ρ}

/-- Emptying the cache does what the register tells. -/
theorem invalidate (rests : Rests factory register) :
    factory.invalidate.1 = register.invalidate.1 ∧
      Rests factory.invalidate.2 register.invalidate.2 := by
  obtain ⟨number, holds⟩ := rests.toHolds.invalidate
  refine ⟨number, holds, ?_, register.calm_clear rests.calm (by simp)⟩
  -- No flight is tracked afterwards, as none was before or all are forgotten.
  unfold Factory.invalidate
  split
  · exact rests.table
  · exact releaseAll_table _

/-- Closing the factory does what the register tells. -/
theorem shutdown (rests : Rests factory register) :
    factory.shutdown.1 = register.shutdown.1 ∧
      Rests factory.shutdown.2 register.shutdown.2 := by
  obtain ⟨number, holds⟩ := rests.toHolds.shutdown
  refine ⟨number, holds, ?_, register.calm_clear rests.calm (by simp)⟩
  unfold Factory.shutdown
  split
  · exact rests.table
  · exact releaseAll_table _

omit [Releasable ρ] in
/-- Asking whether a resource is cached reads the list of entries. -/
theorem isCached (rests : Rests factory register) (id : Identifier) :
    factory.isCached id = register.isCached id := by
  rw [Factory.isCached, Cache.Lru.peekContains_eq rests.wellFormed, Cache.Recency.peekContains,
    rests.peek]
  rfl

omit [Releasable ρ] in
/-- From outside a factory at rest is what its register tells. -/
theorem stats (rests : Rests factory register) : factory.stats = register.stats := by
  have capacity : factory.cache.capacity = register.capacity :=
    congrArg Cache.Recency.capacity rests.list
  have cached : factory.cache.size = register.entries.length := by
    have listed : factory.cache.toList = register.entries :=
      congrArg Cache.Recency.entries rests.list
    rw [← listed]
    exact rests.wellFormed.length_toList.symm
  rw [Factory.stats, Register.stats, rests.phase, rests.generation, rests.table, capacity, cached]

end Rests

/-! ## Calls -/

/-- A factory that listens to refresh events does what a register tells. -/
structure Agrees (attached : Attached ρ) (register : Register ρ) : Prop where
  /-- The factory rests with what is told. -/
  rests : Rests attached.factory register
  /-- No refresh is under way. -/
  idle : attached.context.Idle
  /-- The factory is alive. -/
  held : Attached.listener ∈ attached.context.held
  /-- The factory alone listens, once for each attachment. -/
  listens : attached.context.subscriptions =
    List.replicate register.attachments Attached.listener

namespace Agrees

variable {attached : Attached ρ} {register : Register ρ}

omit [Releasable ρ] in
/-- A factory that is alive is reached by every event that it listens to. -/
theorem live (agrees : Agrees attached register) :
    attached.context.live = attached.context.subscriptions := by
  rw [Context.live, agrees.listens, List.filter_eq_self]
  intro listener member
  rw [List.eq_of_mem_replicate member, Context.isAlive]
  simp [agrees.held]

omit [Releasable ρ] in
/-- Listening once more is one more attachment. -/
theorem attach (agrees : Agrees attached register) :
    Agrees attached.attach register.attach := by
  have alive : attached.context.isAlive Attached.listener = true := by
    rw [Context.isAlive]
    simp [agrees.held]
  -- A listener that is alive is put behind the others.
  have subscribed : attached.attach.context = { attached.context with
      subscriptions := attached.context.subscriptions ++ [Attached.listener] } := by
    simp only [Attached.attach, Context.step, alive, if_true]
  refine ⟨{ agrees.rests.activate with }, ?_, ?_, ?_⟩
  · rw [subscribed]
    exact ⟨agrees.idle.waiting, agrees.idle.delivery⟩
  · rw [subscribed]
    exact agrees.held
  · rw [subscribed]
    show attached.context.subscriptions ++ [Attached.listener] =
      List.replicate (register.attachments + 1) Attached.listener
    rw [agrees.listens, List.replicate_succ']

omit [Releasable ρ] in
/-- What happens to the factory alone leaves its attachments as they are. -/
theorem works (agrees : Agrees attached register) {factory : Factory ρ} {next : Register ρ}
    (rests : Rests factory next) (same : next.attachments = register.attachments) :
    Agrees { attached with factory } next :=
  ⟨rests, agrees.idle, agrees.held, same ▸ agrees.listens⟩

end Agrees

/-- The callbacks of an event are all the factory's, and empty the cache one after the other. -/
theorem notify_rests {context : Context} (task number : Nat) {called : Nat}
    {factory : Factory ρ} {register : Register ρ} (rests : Rests factory register)
    (remain : called + number = context.live.length) :
    let names := List.replicate number Attached.listener
    Rests (Attached.notify task names ⟨factory, context.midway task called false⟩).factory
        (register.invalidates number) ∧
      (Attached.notify task names ⟨factory, context.midway task called false⟩).context =
        context.midway task context.live.length false := by
  -- On the callbacks that are left; what the last one began with is anything at all.
  induction number generalizing called factory register with
  | zero =>
    -- All callbacks are over.
    have ended : called = context.live.length := remain
    rw [← ended]
    exact ⟨rests, rfl⟩
  | succ number ih =>
    -- One more callback begins and ends, and the factory has been emptied in it.
    have next : (context.midway task called false).run [.proceed task, .answer task] =
        context.midway task (called + 1) false := by
      rw [Context.run, List.foldl_cons, Context.midway_calls (by omega), List.foldl_cons,
        Context.midway_answers]
      rfl
    dsimp only
    rw [List.replicate_succ, Attached.notify, next, if_pos rfl]
    exact ih rests.invalidate.2 (by omega)

/-- A refresh empties the list of entries once for each attachment. -/
theorem Agrees.refresh {attached : Attached ρ} {register : Register ρ}
    (agrees : Agrees attached register) :
    attached.refresh.1 = register.refresh.1 ∧ Agrees attached.refresh.2 register.refresh.2 := by
  have started : attached.context.run
      [.request attached.context.epoch, .proceed attached.context.epoch] =
        attached.context.midway attached.context.epoch 0 false :=
    agrees.idle.starts attached.context.epoch
  -- All listeners are the factory and alive, so there is a callback for each attachment.
  have names : (attached.context.midway attached.context.epoch 0 false).subscriptions =
      List.replicate register.attachments Attached.listener := agrees.live.trans agrees.listens
  have count : 0 + register.attachments = attached.context.live.length := by
    rw [agrees.live, agrees.listens, List.length_replicate, Nat.zero_add]
  obtain ⟨rests, context⟩ :=
    notify_rests attached.context.epoch register.attachments agrees.rests count
  -- The request, the callbacks and the end make up the whole refresh.
  have same : attached.refresh = (register.attachments,
      { factory := (Attached.notify attached.context.epoch
          (List.replicate register.attachments Attached.listener)
          ⟨attached.factory, attached.context.midway attached.context.epoch 0 false⟩).factory
        context := attached.context.refreshed attached.context.epoch }) := by
    rw [Attached.refresh, started, names, context, Context.midway_finishes, List.length_replicate]
  rw [same]
  refine ⟨rfl, rests, ⟨rfl, rfl⟩, agrees.held, ?_⟩
  show attached.context.live =
    List.replicate (register.invalidates register.attachments).attachments Attached.listener
  rw [agrees.live, agrees.listens, Register.invalidates_attachments]

/-- A call is answered as the register answers it, and leaves what the register tells. -/
theorem Agrees.perform {attached : Attached ρ} {register : Register ρ}
    (agrees : Agrees attached register) (script : Nat → Identifier → Work ρ)
    (call : Attached.Call) :
    (attached.perform script call).1 = (register.perform script call).1 ∧
      Agrees (attached.perform script call).2 (register.perform script call).2 := by
  cases call with
  | get id =>
    -- The register has counted as many calls of the builder as there are builds.
    have same : script attached.factory.builds.size = script register.calls.length := by
      rw [agrees.rests.size_builds]
    obtain ⟨answer, rests⟩ := agrees.rests.get (script register.calls.length) id
    have answered : (attached.perform script (.get id)).1 =
        .ofLookup (attached.factory.get (script register.calls.length) id).1 := by
      rw [Attached.perform, same]
    have performed : (attached.perform script (.get id)).2 =
        { attached with
          factory := (attached.factory.get (script register.calls.length) id).2 } := by
      rw [Attached.perform, same]
    rw [answered, performed, answer]
    exact ⟨rfl, agrees.works rests (register.get_attachments _ id)⟩
  | isCached id => exact ⟨congrArg Attached.Reply.presence (agrees.rests.isCached id), agrees⟩
  | invalidate =>
    obtain ⟨number, rests⟩ := agrees.rests.invalidate
    exact ⟨congrArg Attached.Reply.number number,
      agrees.works rests (register.clear_attachments .active)⟩
  | attach => exact ⟨rfl, agrees.attach⟩
  | refresh =>
    obtain ⟨number, next⟩ := agrees.refresh
    exact ⟨congrArg Attached.Reply.number number, next⟩
  | stats => exact ⟨congrArg Attached.Reply.stats agrees.rests.stats, agrees⟩
  | shutdown =>
    obtain ⟨number, rests⟩ := agrees.rests.shutdown
    exact ⟨congrArg Attached.Reply.number number,
      agrees.works rests (register.clear_attachments .shutdown)⟩

/-! ## Every sequence of calls -/

/-- Calls one after the other are answered as by the register, which tells what has happened. -/
theorem Agrees.answers {attached : Attached ρ} {register : Register ρ}
    (agrees : Agrees attached register) (script : Nat → Identifier → Work ρ)
    (calls : List Attached.Call) :
    (Cache.answers (Attached.perform script) calls attached).1 =
        (Cache.answers (Register.perform script) calls register).1 ∧
      Agrees (Cache.answers (Attached.perform script) calls attached).2
        (Cache.answers (Register.perform script) calls register).2 := by
  -- Each call leaves two sides that agree, and the other calls start from them.
  induction calls generalizing attached register with
  | nil => exact ⟨rfl, agrees⟩
  | cons call rest ih =>
    obtain ⟨answer, next⟩ := agrees.perform script call
    obtain ⟨further, last⟩ := ih next
    exact ⟨congrArg₂ List.cons answer further, last⟩

omit [Releasable ρ] in
/-- A new factory does what a new register tells. -/
theorem create_agrees {capacity : Nat} {budget : Duration} {start : Attached ρ}
    (created : Attached.create capacity budget = .ok start) :
    Agrees start { capacity, budget } := by
  unfold Attached.create at created
  cases made : (create capacity budget : Except Cache.CreateFault (Factory ρ)) with
  | error fault =>
    rw [made] at created
    cases created
  | ok factory =>
    rw [made] at created
    cases created
    obtain ⟨cache, empty, rfl⟩ := create_made made
    obtain ⟨wellFormed, list⟩ := Cache.Lru.create_spec empty
    -- Nothing has been cached, built or released, and nobody listens.
    have holds : Holds { budget, cache : Factory ρ } { capacity, budget } :=
      ⟨rfl, rfl, rfl, wellFormed, list, rfl, rfl, by simp⟩
    have rests : Rests { budget, cache : Factory ρ } { capacity, budget } :=
      ⟨holds, Std.HashMap.size_empty, by simp⟩
    exact ⟨rests, ⟨rfl, rfl⟩, List.mem_singleton_self _, rfl⟩

/--
Calls one after the other are answered as by a register, whatever the builder does.

The builder is called for the same identifiers, and the same resources are released in the same
order; seen from outside, the two are the same after every call.
-/
theorem answers_eq_register {capacity : Nat} {budget : Duration} {start : Attached ρ}
    (created : Attached.create capacity budget = .ok start) (script : Nat → Identifier → Work ρ)
    (calls : List Attached.Call) :
    let done := Cache.answers (Attached.perform script) calls start
    let told := Cache.answers (Register.perform script) calls { capacity, budget }
    done.1 = told.1 ∧
      done.2.factory.builds.toList.map (fun known => (known.id, known.resource)) =
        told.2.calls ∧
      done.2.factory.released = told.2.released ∧
      done.2.factory.stats = told.2.stats := by
  obtain ⟨answers, agrees⟩ := (create_agrees created).answers script calls
  exact ⟨answers, agrees.rests.calls, agrees.rests.released, agrees.rests.stats⟩

/-- A builder whose second call never ends and whose third finds nothing. -/
def faltering (number : Nat) (id : Identifier) : Work Repository where
  resource := ⟨id, id.text⟩
  outcome :=
    match number with
    | 1 => .overdue
    | 2 => .failed (.missing "b")
    | _ => .ready

/-- Calls that miss, hit, evict, refresh two attachments and come too late. -/
def assorted : List Attached.Call :=
  [.get ⟨"a"⟩, .get ⟨"b"⟩, .get ⟨"b"⟩, .get ⟨"b"⟩, .get ⟨"a"⟩, .get ⟨"c"⟩, .isCached ⟨"b"⟩, .attach,
    .attach, .stats, .refresh, .get ⟨"a"⟩, .shutdown, .refresh, .get ⟨"a"⟩, .invalidate, .stats]

/-- A factory for two resources is told by its register from its first lookup to its shutdown. -/
theorem answers_eq_register_two :
    ∃ start : Attached Repository, Attached.create 2 (.ofSeconds 30) = .ok start ∧
      (Cache.answers (Attached.perform faltering) assorted start).1 =
        [.resource 0, .refusal (.timedOut "b" (.ofSeconds 30)),
          .refusal (.failed "b" "repository b does not exist" true), .resource 3, .resource 0,
          .resource 4, .presence false, .done, .done, .stats ⟨.active, 0, 2, 2, 0⟩, .number 2,
          .resource 5, .number 1, .number 2, .refusal .closed, .number 0,
          .stats ⟨.shutdown, 3, 0, 2, 0⟩] ∧
      (Cache.answers (Attached.perform faltering) assorted start).2.factory.released =
        [3, 0, 4, 5] := by
  obtain ⟨start, created⟩ :
      ∃ start : Attached Repository, Attached.create 2 (.ofSeconds 30) = .ok start := ⟨_, rfl⟩
  obtain ⟨answers, _, released, _⟩ := answers_eq_register created faltering assorted
  exact ⟨start, created, answers.trans (by decide), released.trans (by decide)⟩

end PackGate.Factory
