import Mathlib.Data.List.Induction
import PackGate.Proofs.App.Atomic

/-! When a reload warns of settings that only a restart applies, and when that warning is true. -/

namespace PackGate.App

/-- The record that tells of other settings for the cache. -/
def cacheWarning : Notice :=
  .warn "cache settings changed; restart to apply"

/-- The record that tells of another address to listen on. -/
def addressWarning : Notice :=
  .warn "listen address changed; restart to apply"

/-- The log records that come with an event. -/
def records (app : App) (event : Event) : List Notice :=
  (app.step event).factory.journal.drop app.factory.journal.length

/-! ## The settings read last -/

/-- The settings that the reloads of a run have read, one after the other. -/
def loaded (path : String) (events : List Event) : List Config :=
  events.filterMap fun
    | .reload files => (Config.load files path).toOption
    | _ => none

/-- The settings that were read last, by a reload or else at the start. -/
def latest (path : String) (config : Config) (events : List Event) : Config :=
  (loaded path events).getLast?.getD config

/-- The settings change with a reload that has read others, and with nothing else. -/
theorem step_config (app : App) (event : Event) :
    (app.step event).config = latest app.configPath app.config [event] := by
  -- Of all events only a reload reads settings, and only if they can be read.
  cases event with
  | reload files =>
    show (app.beginReload files).2.config = _
    cases read : Config.load files app.configPath with
    | error error => simp [beginReload, latest, loaded, read, Except.toOption]
    | ok fresh =>
      simp [beginReload, latest, loaded, read, Except.toOption, request, adopt]
  | advance caller =>
    show (app.advance caller).config = app.config
    unfold advance
    split <;> rfl
  | proceed task =>
    show (app.proceed task).config = app.config
    unfold proceed
    dsimp only
    split <;> rfl
  | deliver task =>
    show (app.deliver task).config = app.config
    unfold deliver
    split
    · rfl
    · -- Whoever is called, the settings are left alone.
      dsimp only
      split <;> rfl
  | _ => rfl

/-- What was read last is read by the last event, or was read last before it. -/
theorem latest_concat (path : String) (config : Config) (past : List Event) (event : Event) :
    latest path config (past ++ [event]) = latest path (latest path config past) [event] := by
  unfold latest loaded
  rw [List.filterMap_append, List.getLast?_append]
  -- A single event reads at most one set of settings.
  cases (List.filterMap _ [event]).getLast? <;> rfl

section Run

variable {path : String} {config : Config} {start : App}

/-- Over every run the settings are those that were read last. -/
theorem run_config (created : create path config = .ok start) (past : List Event) :
    (start.run past).config = latest path config past := by
  -- The induction is on the last event, which reads the file named at the start.
  induction past using List.reverseRecOn with
  | nil =>
    obtain ⟨factory, _, rfl⟩ := create_cases created
    rfl
  | append_singleton before last ih =>
    have standing := ((Reached.create created).run before).standing
    rw [run_concat, step_config, standing.path, ih, latest_concat]

end Run

/-! ## What a reload logs -/

section Reload

variable {app : App} {files : FileSystem} {fresh : Config}

/-- A reload logs which settings have changed, and that the shelf has moved. -/
theorem records_reload (loads : Config.load files app.configPath = .ok fresh) :
    app.records (.reload files) =
      changeNotices app.config fresh ++ app.shelf.moveNotices fresh.reposPath := by
  -- The records are those of the change and of the move; asking for the refresh logs nothing.
  show (app.beginReload files).2.factory.journal.drop _ = _
  simp only [beginReload, loads, adopt, foldl_note, request, List.drop_left]

/-- The warnings of other settings, by name. -/
theorem changeNotices_eq (old fresh : Config) :
    changeNotices old fresh =
      (if fresh.cache = old.cache then [] else [cacheWarning]) ++
        if fresh.httpListen = old.httpListen then [] else [addressWarning] :=
  rfl

/-- A move of the shelf is no warning. -/
theorem moved_unwarned (shelf : Shelf) (root text : String) :
    Notice.warn text ∉ shelf.moveNotices root := by
  unfold Shelf.moveNotices
  split <;> simp [Notice.warn, Notice.info]

/-- A reload warns of the cache exactly if the settings before said otherwise. -/
theorem cacheWarning_iff (loads : Config.load files app.configPath = .ok fresh) :
    cacheWarning ∈ app.records (.reload files) ↔ fresh.cache ≠ app.config.cache := by
  have silent : cacheWarning ∉ app.shelf.moveNotices fresh.reposPath := moved_unwarned _ _ _
  have apart : cacheWarning ≠ addressWarning := by decide
  rw [records_reload loads, List.mem_append, or_iff_left silent, changeNotices_eq]
  -- The warning of the address is another one.
  rw [List.mem_append, or_iff_left (by split <;> simp [apart])]
  split <;> simpa

/-- A reload warns of the address exactly if the settings before said otherwise. -/
theorem addressWarning_iff (loads : Config.load files app.configPath = .ok fresh) :
    addressWarning ∈ app.records (.reload files) ↔ fresh.httpListen ≠ app.config.httpListen := by
  have silent : addressWarning ∉ app.shelf.moveNotices fresh.reposPath := moved_unwarned _ _ _
  have apart : addressWarning ≠ cacheWarning := by decide
  rw [records_reload loads, List.mem_append, or_iff_left silent, changeNotices_eq]
  -- The warning of the cache is another one.
  rw [List.mem_append, or_iff_right (by split <;> simp [apart])]
  split <;> simpa

end Reload

/-! ## What a restart would change -/

/-- Settings for the cache are told apart by capacity and budget. -/
theorem cache_eq_iff {one other : CacheSettings} :
    one = other ↔ one.maxSize.toNat = other.maxSize.toNat ∧ one.budget = other.budget := by
  refine ⟨fun same => by rw [same]; exact ⟨rfl, rfl⟩, fun ⟨size, budget⟩ => ?_⟩
  -- The budget is the timeout in whole seconds, so nothing is lost on the way.
  have timeout : one.buildTimeout.toNat = other.buildTimeout.toNat :=
    congrArg Duration.seconds budget
  cases one
  cases other
  exact congrArg₂ CacheSettings.mk (UInt64.toNat_inj.mp size) (UInt64.toNat_inj.mp timeout)

/-- Capacity and budget are those of other settings exactly if these agree on the cache. -/
theorem Standing.sized_iff {path : String} {config : Config} {app : App}
    (standing : Standing path config app) (fresh : Config) :
    app.Sized fresh ↔ fresh.cache = config.cache := by
  -- What the factory has is what the settings of the start ask for.
  unfold Sized
  rw [cache_eq_iff, standing.budget]
  show app.factory.cache.capacity = _ ∧ _ ↔ _
  rw [standing.capacity, eq_comm, @eq_comm _ config.cache.budget]

/-- When to differ from what was read last is to differ from what was read first. -/
theorem warning_true_iff {α : Type} (first last fresh : α) :
    (fresh ≠ last ↔ fresh ≠ first) ↔ last = first ∨ fresh ≠ last ∧ fresh ≠ first := by
  by_cases same : last = first
  · simp [same]
  · by_cases revert : fresh = first
    · -- What was read last lies between two equal ones.
      subst revert
      simp [same, Ne.symm same]
    · simp [same, revert]

section Run

variable {path : String} {config : Config} {start : App}

/--
The warnings of a reload compare what it reads with what was read last.

So they are true as long as the settings read last are those of the start, and else only where
the settings read now differ from both.
-/
theorem restart_warnings_true_iff (created : create path config = .ok start) (past : List Event)
    {files : FileSystem} {fresh : Config} (loads : Config.load files path = .ok fresh) :
    let now := start.run past
    let last := latest path config past
    ((cacheWarning ∈ now.records (.reload files) ↔ fresh.cache ≠ last.cache) ∧
      (addressWarning ∈ now.records (.reload files) ↔ fresh.httpListen ≠ last.httpListen)) ∧
    ((cacheWarning ∈ now.records (.reload files) ↔ ¬now.Sized fresh) ↔
      last.cache = config.cache ∨ fresh.cache ≠ last.cache ∧ fresh.cache ≠ config.cache) ∧
    ((addressWarning ∈ now.records (.reload files) ↔ fresh.httpListen ≠ config.httpListen) ↔
      last.httpListen = config.httpListen ∨
        fresh.httpListen ≠ last.httpListen ∧ fresh.httpListen ≠ config.httpListen) ∧
    ∀ again, create path fresh = .ok again →
      (now.Sized fresh ↔ again.factory.stats.capacity = now.factory.stats.capacity ∧
        again.factory.budget = now.factory.budget) := by
  intro now last
  have standing : Standing path config now := ((Reached.create created).run past).standing
  have current : now.config = last := run_config created past
  rw [← standing.path] at loads
  -- Which warnings there are depends on what was read last.
  have cache := cacheWarning_iff loads
  have address := addressWarning_iff loads
  rw [current] at cache address
  refine ⟨⟨cache, address⟩, ?_, ?_, fun again restarted => ?_⟩
  · -- Which there should be depends on what was read first.
    rw [cache, standing.sized_iff]
    exact warning_true_iff config.cache last.cache fresh.cache
  · rw [address]
    exact warning_true_iff config.httpListen last.httpListen fresh.httpListen
  · -- A restart gives the cache the size that the settings ask for.
    have renewed := create_standing restarted
    have capacity : again.factory.stats.capacity = fresh.cache.maxSize.toNat := renewed.capacity
    rw [capacity, renewed.budget]
    exact and_congr eq_comm eq_comm

/-- Settings that ask for a smaller cache and for another address. -/
def altered : FileSystem :=
  written "storage:\n  repos_path: /srv\ncache:\n  max_size: 8\nproxy:\n  http_listen: 127.0.0.1:9\n"

/-- Settings that ask for nothing in particular. -/
def plain : FileSystem :=
  written "storage:\n  repos_path: /srv\n"

/-- A second reload warns of nothing that is still to be applied, and a third one of what is not. -/
theorem restart_warnings_true_iff_reverted :
    ∃ start : App, create "config.yaml" { reposPath := "/srv" } = .ok start ∧
      cacheWarning ∈ start.records (.reload altered) ∧
      addressWarning ∈ start.records (.reload altered) ∧
      (cacheWarning ∉ (start.run [.reload altered]).records (.reload altered) ∧
        addressWarning ∉ (start.run [.reload altered]).records (.reload altered) ∧
        ∃ fresh, Config.load altered "config.yaml" = .ok fresh ∧
          ¬(start.run [.reload altered]).Sized fresh ∧ fresh.httpListen ≠ "0.0.0.0:8080") ∧
      cacheWarning ∈ (start.run [.reload altered, .reload altered]).records (.reload plain) ∧
      addressWarning ∈ (start.run [.reload altered, .reload altered]).records (.reload plain) ∧
      ∃ fresh, Config.load plain "config.yaml" = .ok fresh ∧
        (start.run [.reload altered, .reload altered]).Sized fresh ∧
          fresh.httpListen = "0.0.0.0:8080" := by
  obtain ⟨start, created⟩ :
      ∃ start : App, create "config.yaml" { reposPath := "/srv" } = .ok start := ⟨_, rfl⟩
  -- What the two files ask for.
  have other : Config.load altered "config.yaml" = .ok
      { httpListen := "127.0.0.1:9", reposPath := "/srv", cache := { maxSize := 8 } } :=
    load_written (by decide +kernel) (by decide +kernel)
  have same : Config.load plain "config.yaml" = .ok { reposPath := "/srv" } :=
    load_written (by decide +kernel) (by decide +kernel)
  obtain ⟨⟨cache, address⟩, -⟩ := restart_warnings_true_iff created [] other
  obtain ⟨⟨unwarned, unsaid⟩, -⟩ := restart_warnings_true_iff created [.reload altered] other
  obtain ⟨⟨warned, said⟩, -⟩ :=
    restart_warnings_true_iff created [.reload altered, .reload altered] same
  simp only [latest, loaded, other, Except.toOption, List.filterMap_cons, List.filterMap_nil,
    List.getLast?_singleton, List.getLast?_nil, Option.getD_some, Option.getD_none,
    List.getLast?_cons_cons] at cache address unwarned unsaid warned said
  -- The size of the cache stays that of the start.
  have sized (past : List Event) :=
    ((Reached.create created).run past).standing.sized_iff
  exact ⟨start, created, cache.mpr (by decide), address.mpr (by decide),
    ⟨fun here => unwarned.mp here rfl, fun here => unsaid.mp here rfl, _, other,
      (sized _ _).not.mpr (by decide), by decide⟩,
    warned.mpr (by decide), said.mpr (by decide), _, same, (sized _ _).mpr rfl, rfl⟩

end Run

end PackGate.App
