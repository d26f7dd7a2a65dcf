import PackGate.Factory.Step

/-! Lookups that run as far as they can before anything else happens. -/

namespace PackGate.Factory

variable {ρ : Type}

/-- What a builder does with an identifier when nothing keeps it waiting. -/
structure Work (ρ : Type) where
  /-- What it hands out if it succeeds. -/
  resource : ρ
  /-- How it ends. -/
  outcome : Outcome
  /-- What it logs. -/
  notices : List Notice := []
deriving Repr

variable [Releasable ρ]

/-- The next stretch of a caller that is alone; none if it is done. -/
def proceed? (factory : Factory ρ) (caller : Nat) (work : Work ρ) : Option (Factory ρ) :=
  match factory.stage? caller with
  | none | some (.served _) | some (.refused _) | some .cancelled => none
  | some (.building _ _) =>
    some ((work.notices.foldl note factory).step (.finish caller work.outcome))
  | some _ => some (factory.step (.advance caller work.resource))

/-- Lets a caller that is alone run through at most `limit` stretches. -/
def proceed (caller : Nat) (work : Work ρ) : Nat → Factory ρ → Factory ρ
  | 0, factory => factory
  | limit + 1, factory =>
    match factory.proceed? caller work with
    | none => factory
    | some next => proceed caller work limit next

/-- The stretches of the longest lookup: activation, entry, build, its end and the final check. -/
def longestLookup : Nat :=
  6

/-- What a caller has been answered, if it has been answered. -/
def answer? (factory : Factory ρ) (caller : Nat) : Option (Except FactoryError Nat) :=
  match factory.stage? caller with
  | some (.served build) => some (.ok build)
  | some (.refused error) => some (.error error)
  | _ => none

/-- Looks an identifier up with nothing else happening. -/
-- There is no answer where the caller has to wait for a build that somebody else drives.
def get (factory : Factory ρ) (builder : Identifier → Work ρ) (id : Identifier) :
    Option (Except FactoryError Nat) × Factory ρ :=
  let caller := factory.callers.size
  let done := proceed caller (builder id) longestLookup (factory.step (.call id))
  (done.answer? caller, done)

end PackGate.Factory
