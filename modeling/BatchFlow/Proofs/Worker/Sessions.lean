import BatchFlow.Proofs.Worker.Batches

/-! What a worker goes through on one connection of its producer after another, and how it comes to
its end. -/

namespace BatchFlow

open Plan (Exchange)

/-- A plan that begins with a question goes on from the answer. -/
theorem Plan.runs_call_bind_iff {β : Type} {question : Call} {next : question.Reply → Plan β}
    {trace : List Exchange} {last : β} :
    ((Plan.call question).bind next).Runs trace last ↔
      ∃ reply rest, trace = ⟨question, reply⟩ :: rest ∧ (next reply).Runs rest last :=
  runs_ask_iff

/-- A plan that begins with a question is left there, or followed through the answer. -/
theorem Plan.reaches_call_bind_iff {β : Type} {question : Call} {next : question.Reply → Plan β}
    {trace : List Exchange} {rest : Plan β} :
    ((Plan.call question).bind next).Reaches trace rest ↔
      (trace = [] ∧ rest = (Plan.call question).bind next) ∨
        ∃ reply more, trace = ⟨question, reply⟩ :: more ∧ (next reply).Reaches more rest :=
  reaches_ask_iff

/-- A plan that only does something with the result of another one asks nothing else. -/
theorem Plan.runs_bind_done_iff {α β : Type} {plan : Plan α} {result : α → β}
    {trace : List Exchange} {last : β} :
    (plan.bind fun value => .done (result value)).Runs trace last ↔
      ∃ value, plan.Runs trace value ∧ last = result value := by
  rw [runs_bind_iff]
  -- The second part of the run is empty.
  constructor
  · rintro ⟨value, first, rest, rfl, runs, ends⟩
    obtain ⟨rfl, same⟩ := runs_done_iff.mp ends
    exact ⟨value, by simpa using runs, same⟩
  · rintro ⟨value, runs, rfl⟩
    exact ⟨value, trace, [], by simp, runs, .done _⟩

/-- The polling on one connection, and how it ended. -/
structure PollingSession where
  polling : List Exchange
  outcome : Except WorkerFailure Unit

/-- The polling came to a failure. -/
def PollingSession.isFailed (session : PollingSession) : Bool :=
  match session.outcome with
  | .ok _ => false
  | .error _ => true

/-- A question about the connection or the position of a producer, a pause, or a report. -/
def Call.isServicing : Call → Bool
  | .log _ | .advance (.producer _) _ | .connectProducer _ | .disconnectProducer _ | .contextOf _
  | .setContext .. | .pause _ => true
  | _ => false

/-- A question about the position or the handle of a producer or the end of its connection, a
pause, or a report. -/
def Call.isLeaving : Call → Bool
  | .log _ | .advance (.producer _) _ | .disconnectProducer _ | .contextOf _ | .setContext ..
  | .pause _ => true
  | _ => false

/-- What is asked on the way out is a service. -/
theorem Call.isServicing_of_isLeaving {call : Call} (leaving : call.isLeaving = true) :
    call.isServicing = true := by
  cases call with
  | advance component transition => cases component <;> first | rfl | cases leaving
  | _ => first | rfl | cases leaving

/-- The last reports of a worker that ends so. -/
def WorkerExit.reports (exit : WorkerExit) : List Exchange :=
  match exit.failure with
  | some failure => [⟨.log (.workerFailed exit.producer failure.text), ()⟩,
      ⟨.log (.workerStopped exit.producer exit.code.toInt), ()⟩]
  | none => [⟨.log (.workerStopped exit.producer exit.code.toInt), ()⟩]

/-- A source that cannot be started was refused its connection. -/
theorem Source.start_refused (source : Source) {trace : List Exchange} {cause : Condition}
    (runs : source.start.Runs trace (.error cause)) :
    (⟨.connectProducer source.key, .error cause⟩ : Exchange) ∈ trace := by
  obtain ⟨moved, _, rfl, more⟩ := Plan.runs_call_bind_iff.mp runs
  -- A start that the handle refuses is a success, since the source is connected already.
  cases moved with
  | false =>
    obtain ⟨_, same⟩ := Plan.runs_done_iff.mp more
    cases same
  | true =>
    obtain ⟨connected, _, rfl, last⟩ := Plan.runs_call_bind_iff.mp more
    cases connected with
    | ok _ =>
      obtain ⟨_, same⟩ := Plan.runs_done_iff.mp last
      cases same
    -- The handle is set back after the refusal.
    | error refused =>
      obtain ⟨_, _, rfl, ends⟩ := Plan.runs_call_bind_iff.mp last
      obtain ⟨_, same⟩ := Plan.runs_done_iff.mp ends
      cases same
      simp

namespace Worker

/-- What a worker with so many restarts left goes through, its sessions, and the exit that it comes
to. -/
inductive Serves (worker : Worker) :
    Nat → List Exchange → List PollingSession → WorkerExit → Prop where
  /-- The producer cannot be connected. -/
  | refused {left : Nat} {before : List Exchange} {cause : Condition}
      (started : worker.source.start.Runs before (.error cause)) :
    Serves worker left before [] (worker.failed (.connect worker.source.id cause))
  /-- There is nothing more to poll. -/
  | drained {left : Nat} {before polling after : List Exchange}
      (started : worker.source.start.Runs before (.ok ()))
      (polled : (worker.pollLoop worker.allowance.rounds).Runs polling (.ok ()))
      (stopped : worker.source.stop.Runs after ()) :
    Serves worker left (before ++ (polling ++ after)) [⟨polling, .ok ()⟩] worker.clean
  /-- The polling fails, and no restarts are left. -/
  | spent {before polling after : List Exchange} {failure : WorkerFailure}
      (started : worker.source.start.Runs before (.ok ()))
      (polled : (worker.pollLoop worker.allowance.rounds).Runs polling (.error failure))
      (stopped : worker.source.stop.Runs after ()) :
    Serves worker 0 (before ++ (polling ++ after)) [⟨polling, .error failure⟩]
      (worker.failed failure)
  /-- The polling fails while the run is being cancelled. -/
  | cancelled {left : Nat} {before polling after : List Exchange} {failure : WorkerFailure}
      (started : worker.source.start.Runs before (.ok ()))
      (polled : (worker.pollLoop worker.allowance.rounds).Runs polling (.error failure))
      (stopped : worker.source.stop.Runs after ()) :
    Serves worker (left + 1) (before ++ (polling ++ ⟨.isCancelled, true⟩ :: after))
      [⟨polling, .error failure⟩] (worker.failed failure)
  /-- The run is cancelled before the producer is connected again. -/
  | cut {left : Nat} {before polling after : List Exchange} {failure : WorkerFailure}
      (started : worker.source.start.Runs before (.ok ()))
      (polled : (worker.pollLoop worker.allowance.rounds).Runs polling (.error failure))
      (recovered : (worker.recover (worker.restart.limit - left) failure).Runs after false) :
    Serves worker (left + 1) (before ++ (polling ++ ⟨.isCancelled, false⟩ :: after))
      [⟨polling, .error failure⟩] (worker.failed (.cancelled worker.source.id))
  /-- The polling fails, and the producer is connected again. -/
  | again {left : Nat} {before polling after trace : List Exchange} {failure : WorkerFailure}
      {sessions : List PollingSession} {exit : WorkerExit}
      (started : worker.source.start.Runs before (.ok ()))
      (polled : (worker.pollLoop worker.allowance.rounds).Runs polling (.error failure))
      (recovered : (worker.recover (worker.restart.limit - left) failure).Runs after true)
      (rest : Serves worker left trace sessions exit) :
    Serves worker (left + 1)
      (before ++ (polling ++ ⟨.isCancelled, false⟩ :: (after ++ trace)))
      (⟨polling, .error failure⟩ :: sessions) exit

/-- What a worker with so many restarts left does about a failure of the polling. -/
def afterFailure (worker : Worker) : Nat → WorkerFailure → Plan WorkerExit
  | 0, failure => do
    worker.source.stop
    return worker.failed failure
  | left + 1, failure => do
    if ← Plan.call .isCancelled then
      worker.source.stop
      return worker.failed failure
    if ← worker.recover (worker.restart.limit - left) failure then
      worker.serve left
    else
      return worker.failed (.cancelled worker.source.id)

/-- To serve is to hold one session, and then to do something about a failure of it. -/
theorem serve_eq (worker : Worker) (left : Nat) :
    worker.serve left = worker.session (worker.afterFailure left) := by
  cases left <;> unfold serve <;> rfl

/-- What a worker goes through from its beginning to its end, its sessions, and its exit. -/
def Goes (worker : Worker) (trace : List Exchange) (sessions : List PollingSession)
    (exit : WorkerExit) : Prop :=
  ∃ serving, worker.Serves worker.restart.limit serving sessions exit ∧
    trace = ⟨.log (.workerStarted worker.source.id worker.name), ()⟩ :: (serving ++ exit.reports)

variable {worker : Worker} {left : Nat} {trace : List Exchange} {sessions : List PollingSession}
  {exit : WorkerExit}

/-- A worker cannot connect its producer, polls until there is nothing more, or does something about
a failure of the polling. -/
theorem session_runs_iff {failing : WorkerFailure → Plan WorkerExit} :
    (worker.session failing).Runs trace exit ↔
      (∃ cause, worker.source.start.Runs trace (.error cause) ∧
        exit = worker.failed (.connect worker.source.id cause)) ∨
      (∃ before polling after, trace = before ++ (polling ++ after) ∧
        worker.source.start.Runs before (.ok ()) ∧
        (worker.pollLoop worker.allowance.rounds).Runs polling (.ok ()) ∧
        worker.source.stop.Runs after () ∧ exit = worker.clean) ∨
      ∃ before polling after failure, trace = before ++ (polling ++ after) ∧
        worker.source.start.Runs before (.ok ()) ∧
        (worker.pollLoop worker.allowance.rounds).Runs polling (.error failure) ∧
        (failing failure).Runs after exit := by
  constructor
  · -- The source is started first, and what comes after it depends on whether it was.
    intro runs
    obtain ⟨started, before, rest, rfl, starts, more⟩ := Plan.runs_bind_iff.mp runs
    cases started with
    | error cause =>
      obtain ⟨rfl, rfl⟩ := Plan.runs_done_iff.mp more
      exact .inl ⟨cause, by simpa using starts, rfl⟩
    | ok _ =>
      obtain ⟨ended, polling, after, rfl, polls, last⟩ := Plan.runs_bind_iff.mp more
      cases ended with
      | error failure =>
        exact .inr (.inr ⟨before, polling, after, failure, rfl, starts, polls, last⟩)
      | ok _ =>
        obtain ⟨_, stops, rfl⟩ := Plan.runs_bind_done_iff.mp last
        exact .inr (.inl ⟨before, polling, after, rfl, starts, polls, stops, rfl⟩)
  · -- Each of the three ways is put together of its parts again.
    rintro (⟨cause, starts, rfl⟩ | ⟨before, polling, after, rfl, starts, polls, stops, rfl⟩ |
      ⟨before, polling, after, failure, rfl, starts, polls, fails⟩)
    · exact Plan.runs_bind_iff.mpr ⟨_, trace, [], by simp, starts, .done _⟩
    · refine Plan.runs_bind_iff.mpr ⟨_, before, _, rfl, starts, ?_⟩
      refine Plan.runs_bind_iff.mpr ⟨_, polling, _, rfl, polls, ?_⟩
      exact Plan.runs_bind_done_iff.mpr ⟨_, stops, rfl⟩
    · refine Plan.runs_bind_iff.mpr ⟨_, before, _, rfl, starts, ?_⟩
      exact Plan.runs_bind_iff.mpr ⟨_, polling, _, rfl, polls, fails⟩

/-- What a worker with so many restarts left goes through are its sessions. -/
theorem serve_runs_iff :
    (worker.serve left).Runs trace exit ↔ ∃ sessions, worker.Serves left trace sessions exit := by
  constructor
  · intro runs
    -- Each restart is another session, so the induction is on the restarts.
    induction left generalizing trace with
    -- Without restarts left a failure of the polling stops the worker.
    | zero =>
      rw [serve_eq] at runs
      rcases session_runs_iff.mp runs with ⟨cause, starts, rfl⟩ |
        ⟨before, polling, after, rfl, starts, polls, stops, rfl⟩ |
        ⟨before, polling, after, failure, rfl, starts, polls, fails⟩
      · exact ⟨_, .refused starts⟩
      · exact ⟨_, .drained starts polls stops⟩
      · obtain ⟨_, stops, rfl⟩ := Plan.runs_bind_done_iff.mp fails
        exact ⟨_, .spent starts polls stops⟩
    -- With a restart left the worker looks first, and then recovers or is cut short.
    | succ left ih =>
      rw [serve_eq] at runs
      rcases session_runs_iff.mp runs with ⟨cause, starts, rfl⟩ |
        ⟨before, polling, after, rfl, starts, polls, stops, rfl⟩ |
        ⟨before, polling, after, failure, rfl, starts, polls, fails⟩
      · exact ⟨_, .refused starts⟩
      · exact ⟨_, .drained starts polls stops⟩
      · -- Each outcome of the look and of the recovery is a way for the session to go on.
        obtain ⟨cancelled, rest, rfl, more⟩ := Plan.runs_call_bind_iff.mp fails
        cases cancelled with
        | true =>
          obtain ⟨_, stops, rfl⟩ := Plan.runs_bind_done_iff.mp more
          exact ⟨_, .cancelled starts polls stops⟩
        | false =>
          obtain ⟨goesOn, after, trace, rfl, recovers, last⟩ := Plan.runs_bind_iff.mp more
          cases goesOn with
          | true =>
            obtain ⟨sessions, serves⟩ := ih last
            exact ⟨_, .again starts polls recovers serves⟩
          | false =>
            obtain ⟨rfl, rfl⟩ := Plan.runs_done_iff.mp last
            exact ⟨_, by simpa using Serves.cut starts polls recovers⟩
  · rintro ⟨sessions, serves⟩
    -- Each of its sessions is put together of its parts again, from the last one back.
    induction serves with
    | refused started =>
      rw [serve_eq]
      exact session_runs_iff.mpr (.inl ⟨_, started, rfl⟩)
    | drained started polled stopped =>
      rw [serve_eq]
      exact session_runs_iff.mpr (.inr (.inl ⟨_, _, _, rfl, started, polled, stopped, rfl⟩))
    | spent started polled stopped =>
      rw [serve_eq]
      refine session_runs_iff.mpr (.inr (.inr ⟨_, _, _, _, rfl, started, polled, ?_⟩))
      exact Plan.runs_bind_done_iff.mpr ⟨_, stopped, rfl⟩
    | cancelled started polled stopped =>
      rw [serve_eq]
      refine session_runs_iff.mpr (.inr (.inr ⟨_, _, _, _, rfl, started, polled, ?_⟩))
      refine Plan.runs_call_bind_iff.mpr ⟨true, _, rfl, ?_⟩
      exact Plan.runs_bind_done_iff.mpr ⟨_, stopped, rfl⟩
    -- The recovery did not go on, so there is no session after this one.
    | cut started polled recovered =>
      rw [serve_eq]
      refine session_runs_iff.mpr (.inr (.inr ⟨_, _, _, _, rfl, started, polled, ?_⟩))
      refine Plan.runs_call_bind_iff.mpr ⟨false, _, rfl, ?_⟩
      exact Plan.runs_bind_iff.mpr ⟨false, _, [], by simp, recovered, .done _⟩
    -- The recovery went on, to the sessions after this one.
    | again started polled recovered _ ih =>
      rw [serve_eq]
      refine session_runs_iff.mpr (.inr (.inr ⟨_, _, _, _, rfl, started, polled, ?_⟩))
      refine Plan.runs_call_bind_iff.mpr ⟨false, _, rfl, ?_⟩
      exact Plan.runs_bind_iff.mpr ⟨true, _, _, rfl, recovered, ih⟩

/-- What a worker goes through from its beginning to its end are its sessions. -/
theorem run_runs_iff :
    worker.run.Runs trace exit ↔ ∃ sessions, worker.Goes trace sessions exit := by
  constructor
  · intro runs
    -- The serving is between a report at the beginning and those at the end.
    obtain ⟨_, rest, rfl, more⟩ := Plan.runs_call_bind_iff.mp runs
    obtain ⟨ended, serving, reports, rfl, serves, last⟩ := Plan.runs_bind_iff.mp more
    obtain ⟨sessions, serves⟩ := serve_runs_iff.mp serves
    -- Whether a failure is reported before the end depends on the exit.
    cases failed : ended.failure with
    | none =>
      simp only [failed] at last
      obtain ⟨_, _, rfl, ends⟩ := Plan.runs_call_bind_iff.mp last
      obtain ⟨rfl, rfl⟩ := Plan.runs_done_iff.mp ends
      exact ⟨sessions, serving, serves, by simp [WorkerExit.reports, failed]⟩
    | some failure =>
      simp only [failed] at last
      obtain ⟨_, _, rfl, stopped⟩ := Plan.runs_call_bind_iff.mp last
      obtain ⟨_, _, rfl, ends⟩ := Plan.runs_call_bind_iff.mp stopped
      obtain ⟨rfl, rfl⟩ := Plan.runs_done_iff.mp ends
      exact ⟨sessions, serving, serves, by simp [WorkerExit.reports, failed]⟩
  · rintro ⟨sessions, serving, serves, rfl⟩
    -- The reports are put back around the serving.
    refine Plan.runs_call_bind_iff.mpr ⟨(), _, rfl, ?_⟩
    refine Plan.runs_bind_iff.mpr ⟨exit, serving, _, rfl, serve_runs_iff.mpr ⟨_, serves⟩, ?_⟩
    unfold WorkerExit.reports
    cases exit.failure with
    | none => exact .ask _ _ _ _ _ (.done _)
    | some failure => exact .ask _ _ _ _ _ (.ask _ _ _ _ _ (.done _))

/-- A worker whose producer was never refused, and whose polling never failed, ends cleanly. -/
theorem Serves.clean (serves : worker.Serves left trace sessions exit)
    (connected : ∀ key cause, (⟨.connectProducer key, .error cause⟩ : Exchange) ∉ trace)
    (unfailed : ∀ session ∈ sessions, session.isFailed = false) : exit = worker.clean := by
  -- Every way to end but two has a session that failed.
  cases serves with
  | refused started => exact absurd (worker.source.start_refused started) (connected _ _)
  | drained => rfl
  | spent | cancelled | cut | again =>
    exact absurd (unfailed _ List.mem_cons_self) (by simp [PollingSession.isFailed])

/-- There is one session at most for each restart, and one more. -/
theorem Serves.length_le (serves : worker.Serves left trace sessions exit) :
    sessions.length ≤ left + 1 := by
  induction serves with
  | refused | drained | spent | cancelled | cut => simp
  | again _ _ _ _ ih => simpa using ih

/-- Every session but the last one has failed. -/
theorem Serves.failed_of_mem_dropLast (serves : worker.Serves left trace sessions exit) :
    ∀ session ∈ sessions.dropLast, session.isFailed = true := by
  -- Only the last session may have ended otherwise, since any other one was followed by a restart.
  induction serves with
  | refused | drained | spent | cancelled | cut => simp
  | @again _ _ _ _ _ _ sessions _ _ _ _ _ ih =>
    cases sessions with
    | nil => simp
    | cons next further =>
      rw [List.dropLast_cons_cons]
      exact List.forall_mem_cons.mpr ⟨rfl, ih⟩

/-- A worker ends cleanly if and only if one of its pollings did. -/
theorem Serves.code_eq_zero_iff (serves : worker.Serves left trace sessions exit) :
    exit.code = 0 ↔ ∃ session ∈ sessions, session.isFailed = false := by
  -- The exit is that of the last session.
  induction serves with
  | refused | spent | cancelled | cut => simp [WorkerExit.code, failed, PollingSession.isFailed]
  | drained => simp [WorkerExit.code, Worker.clean, PollingSession.isFailed]
  | again _ _ _ _ ih => simpa [PollingSession.isFailed] using ih

/-- What a worker asks of its producer between two pollings yields no batch. -/
theorem yields_of_servicing {ρ : Type} {plan : Plan ρ} {result : ρ}
    (confined : plan.Confined (·.isServicing = true) False fun _ => True)
    (runs : plan.Runs trace result) : yields trace = [] := by
  -- A poll is no service.
  refine List.filterMap_eq_nil_iff.mpr fun exchange asked => ?_
  have servicing := (confined.runs runs).1 exchange asked
  obtain ⟨call, reply⟩ := exchange
  cases call with
  | poll => cases servicing
  | _ => rfl

/-- Starting a source asks services only. -/
theorem start_confined (source : Source) :
    source.start.Confined (·.isServicing = true) False fun _ => True := by
  -- A connection that fails sets the handle back, and that is all.
  refine ⟨rfl, fun moved _ _ => ?_⟩
  cases moved with
  | false => trivial
  | true =>
    refine ⟨rfl, fun connected _ _ => ?_⟩
    cases connected with
    | error cause => exact ⟨rfl, fun _ _ _ => trivial⟩
    | ok _ => trivial

/-- Stopping a source asks only what is asked on the way out. -/
theorem stop_leaves (source : Source) :
    source.stop.Confined (·.isLeaving = true) False fun _ => True := by
  -- A disconnection that fails is reported as well.
  refine ⟨rfl, fun moved _ _ => ?_⟩
  cases moved with
  | false => trivial
  | true =>
    refine ⟨rfl, fun disconnected _ _ => ?_⟩
    cases disconnected with
    | error cause => exact ⟨rfl, fun _ _ _ => ⟨rfl, fun _ _ _ => trivial⟩⟩
    | ok _ => exact ⟨rfl, fun _ _ _ => trivial⟩

/-- What is done before a restart is asked on the way out. -/
theorem recover_leaves (attempt : Nat) (failure : WorkerFailure) :
    (worker.recover attempt failure).Confined (·.isLeaving = true) False fun _ => True := by
  refine ⟨rfl, fun _ _ _ => ⟨rfl, fun context _ _ => ?_⟩⟩
  -- The source is stopped before the pause, and gets its position back after it.
  refine (stop_leaves worker.source).bind fun _ _ => ⟨rfl, fun cut _ _ => ?_⟩
  cases cut with
  | true => trivial
  | false =>
    cases context with
    | none => trivial
    | some context => exact ⟨rfl, fun _ _ _ => trivial⟩

/-- Stopping a source asks services only. -/
theorem stop_confined (source : Source) :
    source.stop.Confined (·.isServicing = true) False fun _ => True :=
  (stop_leaves source).weaken (fun _ => Call.isServicing_of_isLeaving) id fun _ => id

/-- What is done before a restart are services only. -/
theorem recover_confined (attempt : Nat) (failure : WorkerFailure) :
    (worker.recover attempt failure).Confined (·.isServicing = true) False fun _ => True :=
  (recover_leaves attempt failure).weaken (fun _ => Call.isServicing_of_isLeaving) id fun _ => id

/-- Every batch is yielded in one of the sessions. -/
theorem Serves.yields_eq (serves : worker.Serves left trace sessions exit) :
    yields trace = sessions.flatMap fun session => yields session.polling := by
  have asked : ∀ (cancelled : Bool) (rest : List Exchange),
      yields (⟨.isCancelled, cancelled⟩ :: rest) = yields rest := fun _ _ => rfl
  -- Everything around the pollings is a service or a look at the run.
  induction serves with
  | refused started => exact yields_of_servicing (start_confined _) started
  | drained started _ stopped | spent started _ stopped =>
    simp [yields_of_servicing (start_confined _) started,
      yields_of_servicing (stop_confined _) stopped]
  | cancelled started _ stopped =>
    simp [asked, yields_of_servicing (start_confined _) started,
      yields_of_servicing (stop_confined _) stopped]
  | cut started _ recovered =>
    simp [asked, yields_of_servicing (start_confined _) started,
      yields_of_servicing (recover_confined _ _) recovered]
  | again started _ recovered _ ih =>
    simp [asked, yields_of_servicing (start_confined _) started,
      yields_of_servicing (recover_confined _ _) recovered, ih]

/-- Every batch is yielded in one of the sessions, since reports yield nothing. -/
theorem Goes.yields_eq (goes : worker.Goes trace sessions exit) :
    yields trace = sessions.flatMap fun session => yields session.polling := by
  obtain ⟨serving, serves, rfl⟩ := goes
  have reported : yields exit.reports = [] := by
    unfold WorkerExit.reports
    split <;> rfl
  -- Nor does the report at the beginning yield anything.
  have begun : yields (⟨.log (.workerStarted worker.source.id worker.name), ()⟩ ::
      (serving ++ exit.reports)) = yields (serving ++ exit.reports) := rfl
  rw [begun, yields_append, reported, List.append_nil, serves.yields_eq]

end Worker

end BatchFlow
