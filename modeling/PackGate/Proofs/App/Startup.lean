import PackGate.Proofs.Cache.Room
import PackGate.Proofs.Factory.Invariant
import PackGate.Server

/-! Which accepted settings the server starts with, and what stops it from starting with others. -/

namespace PackGate

/-- A factory can be created for every capacity that is not zero and whose table fits. -/
theorem Factory.create_cases {ρ : Type} {capacity : Nat} (some : capacity ≠ 0)
    (budget : Duration) :
    (capacity ≤ Cache.maxCapacity ∧
        ∃ factory : Factory ρ, Factory.create capacity budget = .ok factory) ∨
      Cache.maxCapacity < capacity ∧
        (Factory.create capacity budget : Except Cache.CreateFault (Factory ρ)) =
          .error .tableOverflow := by
  have limit : Cache.maxAllocation = 9223372036854775807 := by decide
  have greatest : Cache.maxCapacity = 126100789566373888 := by decide
  have bucket : Factory.layout.bucket = 32 := rfl
  have node : Factory.layout.node = 48 := rfl
  unfold Factory.create Cache.Lru.create
  rw [if_neg some, bucket, node]
  by_cases fits : Cache.tableBytes 32 capacity ≤ Cache.maxAllocation - 15
  · -- Where the table fits, so does the slab, which takes 48 bytes for a key.
    have room := Cache.tableBytes_le_iff.mp fits
    rw [if_neg (Nat.not_lt.mpr fits), if_neg (by omega)]
    exact .inl ⟨room, _, rfl⟩
  · have crowded : ¬capacity ≤ Cache.maxCapacity := fun room =>
      fits (Cache.tableBytes_le_iff.mpr room)
    rw [if_pos (Nat.lt_of_not_le fits)]
    exact .inr ⟨by omega, rfl⟩

/-! ## Accepted settings -/

/-- Settings that are accepted have no flaw. -/
theorem Config.flaw?_of_parse {text : String} {config : Config}
    (accepted : Config.parse text = .ok config) : config.flaw? = none := by
  unfold Config.parse at accepted
  cases read : Config.decode text with
  | error error =>
    rw [read] at accepted
    cases accepted
  | ok found =>
    -- The settings that were read are the accepted ones, or a flaw of theirs is reported.
    rw [read] at accepted
    simp only [bind, Except.bind] at accepted
    cases flaw : found.flaw? with
    | some flaw =>
      rw [flaw] at accepted
      cases accepted
    | none =>
      rw [flaw] at accepted
      cases accepted
      exact flaw

/-- Settings without a flaw have a capacity, a budget and an address. -/
theorem Config.sane_of_flaw? {config : Config} (flawless : config.flaw? = none) :
    config.cache.maxSize.toNat ≠ 0 ∧ config.cache.buildTimeout ≠ 0 ∧
      ∃ socket, SocketAddress.ofText? config.httpListen = some socket := by
  -- The checks come one after the other, and each of them has been passed.
  unfold Config.flaw? at flawless
  split at flawless
  · cases flawless
  rename_i capacity
  split at flawless
  · cases flawless
  rename_i budget
  split at flawless
  · cases flawless
  rename_i address
  refine ⟨fun zero => capacity ?_, budget, ?_⟩
  · exact UInt64.toNat_inj.mp zero
  · exact Option.ne_none_iff_exists'.mp (by simpa using address)

namespace App

/--
The server starts with accepted settings if and only if the table of its cache fits.

Nothing else stops it: the capacity is not zero, and the address it is to listen on is one.
-/
theorem accepted_starts_iff {text : String} {config : Config}
    (accepted : Config.parse text = .ok config) (path : String) :
    ((∃ app, create path config = .ok app) ↔ config.cache.maxSize.toNat ≤ Cache.maxCapacity) ∧
      (∀ fault, create path config = .error fault → fault = .tableOverflow) ∧
      ∃ socket, SocketAddress.ofText? config.httpListen = some socket ∧
        (Server.bindFault? socket = none → Server.listen config = .ok socket) := by
  obtain ⟨capacity, _, socket, address⟩ := Config.sane_of_flaw? (Config.flaw?_of_parse accepted)
  have listens : Server.bindFault? socket = none → Server.listen config = .ok socket := by
    intro free
    simp only [Server.listen, address, free]
  -- The rest of the start only puts the factory in its place.
  rcases Factory.create_cases (ρ := Repository) capacity config.cache.budget with
    ⟨room, factory, created⟩ | ⟨crowded, fault⟩
  · have starts : ∃ app, create path config = .ok app := by
      unfold create assemble
      rw [created]
      exact ⟨_, rfl⟩
    refine ⟨iff_of_true starts room, fun fault fails => ?_, socket, address, listens⟩
    obtain ⟨app, made⟩ := starts
    rw [made] at fails
    cases fails
  · -- The factory panics on its table, and that is the only end there is.
    have fails : create path config = .error .tableOverflow := by
      unfold create assemble
      rw [fault]
      rfl
    refine ⟨iff_of_false ?_ (by omega), fun other same => ?_, socket, address, listens⟩
    · rintro ⟨app, made⟩
      rw [made] at fails
      cases fails
    · rw [fails] at same
      cases same
      rfl

/-- The greatest capacity that can be written down is accepted and does not start. -/
theorem accepted_starts_iff_greatest :
    ∃ config : Config,
      Config.parse "storage:\n  repos_path: /srv/git\ncache:\n  max_size: 18446744073709551615\n" =
          .ok config ∧
        config.cache.maxSize.toNat = 18446744073709551615 ∧
        create "config.yaml" config = .error .tableOverflow := by
  have parsed : (Config.parse
      "storage:\n  repos_path: /srv/git\ncache:\n  max_size: 18446744073709551615\n").toOption =
        some { reposPath := "/srv/git", cache := { maxSize := 18446744073709551615 } } := by
    decide +kernel
  cases read : Config.parse
      "storage:\n  repos_path: /srv/git\ncache:\n  max_size: 18446744073709551615\n" with
  | error error =>
    rw [read] at parsed
    cases parsed
  | ok config =>
    rw [read] at parsed
    cases parsed
    obtain ⟨starts, faults, _⟩ := accepted_starts_iff read "config.yaml"
    refine ⟨_, rfl, by decide, ?_⟩
    -- It does not start, and there is only one reason for that.
    cases made : create "config.yaml"
        { reposPath := "/srv/git", cache := { maxSize := 18446744073709551615 } } with
    | ok app => exact absurd (starts.mp ⟨app, made⟩) (by decide)
    | error fault => rw [faults fault made]

end App

end PackGate
