import BatchFlow.Proofs.Adaptor.Tasks
import BatchFlow.Proofs.Plan.Environment
import BatchFlow.Proofs.Worker.Sessions

/-! A worker looks at its run before each poll, routes at most one batch for each poll, and leaves
the run as a whole to the adaptor. So there is not much that it can still do once the run was
cancelled. -/

namespace BatchFlow

open Plan (Exchange Passes)

/-- A question about the run as a whole, its nodes or its workers. -/
def Call.isExecutive : Call → Bool
  | .advance (.producer _) _ => false
  | .advance .. | .connectNode _ | .disconnectNode _ | .shutdownProducer _ | .openRun | .cancelRun
  | .spawnWorker _ | .nextExit | .collectExit _ => true
  | _ => false

/-- How far a worker has come since it last looked at its run. -/
inductive CheckState where
  /-- It has to look before it polls. -/
  | due
  /-- It has looked, and the run was not cancelled. -/
  | clear
  /-- It has polled. -/
  | polled

namespace CheckState

/-- The polls that are left before it has to look again. -/
def polls : CheckState → Nat
  | clear => 1
  | _ => 0

/-- The batches that are left to be routed before it has to look again. -/
def routings : CheckState → Nat
  | due => 0
  | _ => 1

end CheckState

/-- How a worker checks whether its run was cancelled. The first thing to be asked about a batch is
where to keep its metadata. -/
def cancellationCheck : Plan.Rules CheckState where
  permits check call := call.isExecutive = false ∧ (call.isPoll = true → check = .clear) ∧
    (call = .newMetadata → check = .polled)
  after? check
    | ⟨.isCancelled, cancelled⟩ => some (if cancelled then .due else .clear)
    | ⟨.poll .., _⟩ => some .polled
    | ⟨.newMetadata, _⟩ => some .due
    | _ => some check
  boundless := True

/-- Whatever it is told, the worker has come somewhere with its check. -/
theorem cancellationCheck_total : cancellationCheck.Total := by
  intro check exchange
  unfold cancellationCheck
  dsimp only
  split <;> exact ⟨_, rfl⟩

/-- A question that neither concerns the run as a whole nor has anything to do with the check. -/
def Call.isUnwatched (call : Call) : Bool :=
  !call.isExecutive && !call.isPoll &&
    match call with
    | .isCancelled | .newMetadata => false
    | _ => true

/-- What has nothing to do with the check is permitted at any time. -/
theorem cancellationCheck_permits {check : CheckState} {call : Call}
    (unwatched : call.isUnwatched = true) :
    cancellationCheck.permits check call := by
  -- The rules permit what is no question of an executive, no poll and no message.
  obtain ⟨ordinary, others⟩ := Bool.and_eq_true_iff.mp unwatched
  obtain ⟨executive, unpolled⟩ := Bool.and_eq_true_iff.mp ordinary
  refine ⟨by simpa using executive, fun polled => ?_, fun same => ?_⟩
  · simp [polled] at unpolled
  · subst same
    cases others

/-- What has nothing to do with the check leaves it where it was. -/
theorem cancellationCheck_after {check later : CheckState} {call : Call}
    (unwatched : call.isUnwatched = true) (reply : call.Reply)
    (led : cancellationCheck.after? check ⟨call, reply⟩ = some later) : later = check := by
  cases call <;> first | (cases led; rfl) | cases unwatched

namespace Worker

variable {worker : Worker} {check : CheckState} {ρ : Type} {ends : ρ → CheckState → Prop}

/-- A question that has nothing to do with the check leaves it where it was. -/
theorem cancellationCheck_ask {call : Call} {next : call.Reply → Plan ρ}
    (unwatched : call.isUnwatched = true)
    (rest : ∀ reply, (next reply).Observes cancellationCheck ends check) :
    (Plan.ask call next).Observes cancellationCheck ends check :=
  ⟨cancellationCheck_permits unwatched, fun reply _ led =>
    cancellationCheck_after unwatched reply led ▸ rest reply⟩

/-- A plan that has nothing to do with the check leaves it where it was. -/
theorem cancellationCheck_of_confined {plan : Plan ρ} {boundless : Prop} {kept : ρ → Prop}
    (confined : plan.Confined (·.isUnwatched = true) boundless kept) :
    plan.Observes cancellationCheck (fun result later => kept result ∧ later = check) check :=
  confined.observes (fun _ unwatched => cancellationCheck_permits unwatched)
    (fun _ reply _ unwatched led => cancellationCheck_after unwatched reply led) fun _ => trivial

/-- What a worker asks of its producer between two pollings has nothing to do with the check. -/
theorem cancellationCheck_of_servicing {plan : Plan ρ} {kept : ρ → Prop}
    (confined : plan.Confined (·.isServicing = true) False kept) :
    plan.Observes cancellationCheck (fun result later => kept result ∧ later = check) check := by
  refine cancellationCheck_of_confined
    (confined.weaken (fun call servicing => ?_) id fun _ kept => kept)
  -- The transitions of nodes are for the adaptor.
  cases call with
  | advance component => cases component <;> first | rfl | cases servicing
  | _ => first | rfl | cases servicing

/-- A batch can be routed after a poll, and then the next look is due. -/
theorem routeBatch_observes_cancellationCheck (items : List Item) :
    (worker.routeBatch items).Observes cancellationCheck (fun _ later => later = .due) .polled := by
  have names : (worker.messageFor items).Observes cancellationCheck
      (fun _ later => later = .due) .polled := by
    -- The first question about the batch uses up the look, and the others do not count.
    refine ⟨⟨rfl, fun polled => (by cases polled), fun _ => rfl⟩, fun metadata later led => ?_⟩
    cases led
    refine cancellationCheck_ask rfl fun context => ?_
    dsimp only
    split
    · exact cancellationCheck_ask rfl fun _ => rfl
    · rfl
  -- A walk neither polls nor looks, wherever it goes.
  have routes := worker.router.route_confined fun (call : Call) walks => by
    show call.isUnwatched = true
    rcases walks with ⟨node, applied⟩ | shared
    · cases call <;> first | rfl | cases applied
    · cases call <;> first | rfl | cases shared
  refine names.bind fun message later due => ?_
  subst due
  refine (cancellationCheck_of_confined (routes _ message)).bind ?_
  rintro routed _ ⟨_, rfl⟩
  cases routed with
  | error failure => rfl
  | ok results =>
    refine cancellationCheck_ask rfl fun told => ?_
    cases told <;> rfl

/-- A worker looks before each poll, wherever the polling begins. -/
theorem pollLoop_observes_cancellationCheck (rounds : Nat) :
    (worker.pollLoop rounds).Observes cancellationCheck (fun _ _ => True) check := by
  -- Each round begins with a look of its own, wherever the one before it came to.
  induction rounds generalizing check with
  | zero => trivial
  | succ rounds ih =>
    refine ⟨⟨rfl, fun polled => (by cases polled), fun same => (by cases same)⟩,
      fun cancelled later led => ?_⟩
    cases led
    cases cancelled with
    | true => trivial
    | false =>
      -- The question whether the producer is exhausted changes nothing about what may follow.
      refine cancellationCheck_ask rfl fun exhausted => ?_
      cases exhausted with
      | true => trivial
      | false =>
        -- The look was just now, so that the poll is permitted.
        refine ⟨⟨rfl, fun _ => rfl, fun same => (by cases same)⟩, fun polled later led => ?_⟩
        cases led
        cases polled with
        | cancelled => trivial
        | nothing => exact ih
        | batch items =>
          cases items with
          | nil => exact ih
          -- A batch is routed under the same look, and the next round begins with another one.
          | cons first rest =>
            refine (routeBatch_observes_cancellationCheck _).bind fun routed later _ => ?_
            cases routed with
            | error failure => trivial
            | ok _ => exact ih
        | failed cause =>
          -- Only a fatal failure ends the polling.
          dsimp only [Plan.bind]
          split
          · trivial
          · exact cancellationCheck_ask rfl fun _ => ih

/-- With every restart the worker checks as before. -/
theorem serve_observes_cancellationCheck (left : Nat) :
    (worker.serve left).Observes cancellationCheck (fun _ _ => True) check := by
  -- What is done about a failure of the polling depends on the restarts that are left.
  have session : ∀ {failing : WorkerFailure → Plan WorkerExit},
      (∀ failure {later : CheckState}, (failing failure).Observes cancellationCheck
        (fun _ _ => True) later) →
      ∀ {check : CheckState}, (worker.session failing).Observes cancellationCheck
        (fun _ _ => True) check := by
    intro failing fails check
    -- Starting, stopping and recovering ask nothing that the rules are about.
    refine (cancellationCheck_of_servicing (start_confined _)).bind fun started later _ => ?_
    cases started with
    | error cause => trivial
    | ok _ =>
      -- The polling keeps to the rules wherever it begins.
      refine (pollLoop_observes_cancellationCheck _).bind fun ended last _ => ?_
      cases ended with
      | ok _ => exact (cancellationCheck_of_servicing (stop_confined _)).bind fun _ _ _ => trivial
      | error failure => exact fails failure
  -- By induction on the restarts that are left.
  induction left generalizing check with
  | zero =>
    rw [serve_eq]
    refine session fun failure later => ?_
    refine (cancellationCheck_of_servicing (stop_confined _)).bind fun _ _ _ => ?_
    trivial
  | succ left ih =>
    rw [serve_eq]
    refine session fun failure later => ?_
    -- The look before a restart is one at a run that may have been cancelled.
    refine ⟨⟨rfl, fun polled => (by cases polled), fun same => (by cases same)⟩,
      fun cancelled last led => ?_⟩
    cases cancelled with
    | true => exact (cancellationCheck_of_servicing (stop_confined _)).bind fun _ _ _ => trivial
    -- A restart that goes on leads to the next session.
    | false =>
      refine (cancellationCheck_of_servicing (recover_confined _ _)).bind fun goesOn last _ => ?_
      cases goesOn with
      | true => exact ih
      | false => trivial

/-- A worker checks its run from its beginning to its end. -/
theorem run_observes_cancellationCheck (worker : Worker) :
    worker.run.Observes cancellationCheck (fun _ _ => True) .due := by
  refine cancellationCheck_ask rfl fun _ =>
    (serve_observes_cancellationCheck _).bind fun exit later _ => ?_
  -- Reports at the end are not watched.
  cases exit.failure with
  | none => exact cancellationCheck_ask rfl fun _ => trivial
  | some failure =>
    exact cancellationCheck_ask rfl fun _ => cancellationCheck_ask rfl fun _ => trivial

end Worker

/-- An exchange begins the routing of a batch. -/
def Plan.Exchange.beginsRouting (exchange : Exchange) : Bool :=
  match exchange.call with
  | .newMetadata => true
  | _ => false

/-- Each exchange uses up what it takes, and only a run that is not cancelled restores it. -/
theorem cancellationCheck_spends {check later : CheckState} {exchange : Exchange}
    (granted : cancellationCheck.Grants check exchange later)
    (apart : exchange ≠ ⟨.isCancelled, false⟩) :
    (if exchange.call.isPoll then 1 else 0) + later.polls ≤ check.polls ∧
      (if exchange.beginsRouting then 1 else 0) + later.routings ≤ check.routings := by
  obtain ⟨call, reply⟩ := exchange
  obtain ⟨⟨_, polling, naming⟩, led⟩ := granted
  -- A look restores what is left, a poll and a routing take from it, and nothing else counts.
  cases call with
  -- A look at a run that is not cancelled is excluded, and any other one restores nothing.
  | isCancelled =>
    cases reply with
    | false => exact absurd rfl apart
    | true =>
      cases led
      exact ⟨Nat.zero_le _, Nat.zero_le _⟩
  -- A poll and a message to be routed are there once after each look.
  | poll =>
    cases led
    cases polling rfl
    exact ⟨Nat.le_refl _, Nat.le_refl _⟩
  | newMetadata =>
    cases led
    cases naming rfl
    exact ⟨Nat.le_refl _, Nat.le_refl _⟩
  | _ =>
    cases led
    simp [Call.isPoll, Plan.Exchange.beginsRouting]

/-- A worker that never sees its run other than cancelled polls no more than it may before it has to
look again, and routes no more. -/
theorem Plan.Passes.spends {check last : CheckState} {trace : List Exchange}
    (passes : Passes cancellationCheck.Grants check trace last)
    (cancelled : (⟨.isCancelled, false⟩ : Exchange) ∉ trace) :
    trace.countP (·.call.isPoll) + last.polls ≤ check.polls ∧
      trace.countP (·.beginsRouting) + last.routings ≤ check.routings := by
  -- The first exchange takes what it uses, and the others have what is left.
  induction passes with
  | start check => simp
  | @next check middle last exchange trace granted _ ih =>
    obtain ⟨apart, rest⟩ := not_or.mp (List.mem_cons.not.mp cancelled)
    obtain ⟨polls, routings⟩ := ih rest
    have step := cancellationCheck_spends granted fun same => apart same.symm
    simp only [List.countP_cons]
    omega

end BatchFlow
