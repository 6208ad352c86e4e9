import BatchFlow.Stage.Answer

/-! Performing a single plan: whenever it has to wait, the clock moves on. -/

namespace BatchFlow.Stage

/-- How a performance ends. -/
inductive Ending (ρ : Type) where
  | finished (result : ρ)
  | panicked
  /-- The plan was not unfolded far enough. -/
  | starved
  /-- The plan waits for something that nobody else brings about. -/
  | stuck

namespace World

/-- Carries out a plan by itself. -/
def perform {ρ : Type} : Plan ρ → World → World × Ending ρ
  | .done result, world => (world, .finished result)
  | .starved, world => (world, .starved)
  | .ask call next, world =>
    match world.answer call with
    | .reply world reply => perform (next reply) world
    | .panic world => (world, .panicked)
    | .wait world (.timed due reply _) =>
      let world := { world with now := max world.now due }
      match reply with
      | some reply => perform (next reply) world
      | none => (world, .panicked)
    | .wait world _ => (world, .stuck)

end World

end BatchFlow.Stage
