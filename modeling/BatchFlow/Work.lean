import BatchFlow.Plan

/-! Work: a plan that keeps a state and may be abandoned. The state survives the failure, so that
whoever abandons the work can still undo it. -/

namespace BatchFlow

/-- Work on a state, which ends with a result or a failure and with the state it left. -/
def Work (σ α : Type) : Type :=
  σ → Plan (σ × Except RouteFailure α)

namespace Work

variable {σ τ α β : Type}

/-- Goes on after a result and stops at a failure. -/
def andThen (next : α → Work σ β) : σ × Except RouteFailure α → Plan (σ × Except RouteFailure β)
  | (state, .ok result) => next result state
  -- The state is the one that the failing part left.
  | (state, .error failure) => .done (state, .error failure)

instance : Monad (Work σ) where
  pure result := fun state => .done (state, .ok result)
  bind work next := fun state => (work state).bind (andThen next)

/-- Abandons the work. -/
def abandon (failure : RouteFailure) : Work σ α :=
  fun state => .done (state, .error failure)

/-- Asks the surroundings. -/
def call (call : Call) : Work σ call.Reply :=
  fun state => .ask call fun reply => .done (state, .ok reply)

/-- Reports an event. -/
def log (event : Event) : Work σ Unit := call (.log event)

/-- The allowance does not suffice. -/
def starve : Work σ α := fun _ => .starved

/-- Changes the state. -/
def modify (change : σ → σ) : Work σ Unit :=
  fun state => .done (change state, .ok ())

/-- Work on one part of a larger state. -/
def onPart (get : τ → σ) (set : σ → τ → τ) (work : Work σ α) : Work τ α :=
  fun state => (work (get state)).bind fun (part, result) => .done (set part state, result)

/-- A step that may turn out to be faulty, with the state it left. -/
def ofFaulty (step : σ → Plan (σ × Except TransactionFault α)) : Work σ α :=
  fun state => (step state).bind fun (state, result) =>
    .done (state, result.mapError RouteFailure.transaction)

/-- Work through a list, one element after the other. -/
def forEach (elements : List α) (work : α → Work σ Unit) : Work σ Unit :=
  match elements with
  | [] => pure ()
  | first :: rest => do
    work first
    forEach rest work

end Work

end BatchFlow
