import BatchFlow.Proofs.Router.Atomicity
import BatchFlow.Proofs.Worker.Sessions

/-! What it takes for a batch to have been routed. Its transaction is over, and its producer was
shown what the traversal left behind, if it went well. -/

namespace BatchFlow

open Plan (Exchange)

namespace Plan

variable {α β ρ : Type}

/-- One plan after another comes to an end, if both do. -/
theorem Ends.bind {plan : Plan α} {next : α → Plan β} (first : plan.Ends)
    (second : ∀ value, (next value).Ends) : (plan.bind next).Ends := by
  induction plan with
  | done value => exact second value
  | ask call further ih => exact fun reply => ih reply (first reply)
  | starved => exact first

/-- However far a plan that comes to an end is followed, the rest of it comes to an end. -/
theorem Ends.reaches {plan rest : Plan ρ} {trace : List Exchange} (ends : plan.Ends)
    (reaches : plan.Reaches trace rest) : rest.Ends := by
  induction reaches with
  | start plan => exact ends
  | ask call next reply trace rest more ih => exact ih (ends reply)

/-- A plan that comes to an end can be run to it. -/
theorem Ends.exists_run {plan : Plan ρ} (ends : plan.Ends) :
    ∃ trace result, plan.Runs trace result := by
  induction plan with
  | done result => exact ⟨[], result, .done result⟩
  | ask call next ih =>
    -- Any answer will do, so the question gets the one that changes nothing.
    obtain ⟨trace, result, runs⟩ := ih (uneventful call) (ends _)
    exact ⟨_, result, .ask call next _ trace result runs⟩
  | starved => exact absurd ends id

end Plan

/-- A transaction that is settled is over. -/
theorem Router.Settled.over {transaction : Transaction}
    {working closing : List ResourceCall} {result : Except RouteFailure Terminal}
    (settled : Router.Settled transaction working closing result) :
    transaction.phase = .committed ∨ transaction.phase = .rolledBack := by
  -- A walk that failed was rolled back, and so was one that could not commit.
  cases settled with
  | committed _ phase => exact .inl phase
  | rolledBack _ phase => exact .inr phase
  | abandoned _ phase => exact .inr phase

namespace Worker

variable {worker : Worker} {items : List Item} {routing : List Exchange}
  {outcome : Except WorkerFailure Unit}

/-- What passed while a batch was routed, when it is over: its message was made, it was walked
through the topology, and its producer was shown the results, if there were any. -/
def Concludes (worker : Worker) (items : List Item) (routing : List Exchange) : Prop :=
  ∃ message naming working closing traversal result showing,
    routing = naming ++ (working ++ closing) ++ showing ∧
    (worker.messageFor items).Runs naming message ∧
    (worker.router.walk worker.allowance.depth message).Runs (working ++ closing)
      (traversal, result) ∧
    (traversal.transaction.phase = .committed ∨ traversal.transaction.phase = .rolledBack) ∧
    Router.Settled traversal.transaction (ResourceCall.inTrace working)
      (ResourceCall.inTrace closing) result ∧
    match result with
    | .ok results => ∃ reply, showing = [⟨.onTerminal worker.source.key results, reply⟩]
    | .error _ => showing = []

/-- A batch is routed to the end. -/
theorem routeBatch_concludes (routed : (worker.routeBatch items).Runs routing outcome) :
    worker.Concludes items routing := by
  -- First the message is made, then it is walked, and then the producer is shown the results.
  obtain ⟨message, naming, rest, rfl, names, more⟩ := Plan.runs_bind_iff.mp routed
  obtain ⟨result, walking, showing, rfl, routes, shows⟩ := Plan.runs_bind_iff.mp more
  obtain ⟨traversal, walks⟩ := Router.route_runs_iff.mp routes
  obtain ⟨working, closing, rfl, _, _, settled⟩ := Router.walk_settles walks
  refine ⟨message, naming, working, closing, traversal, result, showing, by simp, names, walks,
    settled.over, settled, ?_⟩
  cases result with
  | error failure => exact (Plan.runs_done_iff.mp shows).1
  | ok results =>
    obtain ⟨reply, after, rfl, last⟩ := Plan.runs_call_bind_iff.mp shows
    refine ⟨reply, ?_⟩
    -- Whatever the producer makes of the results, nothing more is asked.
    cases reply with
    | error cause => rw [(Plan.runs_done_iff.mp last).1]
    | ok _ => rw [(Plan.runs_done_iff.mp last).1]

/-- A message for a batch is always made. -/
theorem messageFor_ends (worker : Worker) (items : List Item) :
    (worker.messageFor items).Ends := by
  intro metadata context
  dsimp only
  split
  · exact fun _ => trivial
  · trivial

/-- Where walks come to an end, so does the routing of a batch. -/
theorem routeBatch_ends
    (comes : ∀ message, (worker.router.route worker.allowance.depth message).Ends)
    (items : List Item) : (worker.routeBatch items).Ends := by
  -- The message and the walk come to an end, and at most one question is left.
  refine (worker.messageFor_ends items).bind fun message => (comes message).bind fun result => ?_
  cases result with
  | error failure => trivial
  | ok results =>
    intro reply
    cases reply <;> trivial

end Worker

end BatchFlow
