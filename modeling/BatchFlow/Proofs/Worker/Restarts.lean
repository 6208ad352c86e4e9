import BatchFlow.Proofs.Plan.Environment
import BatchFlow.Proofs.Worker.Sessions

/-! How a worker whose producer is stopped at first goes from one polling to the next, as long as
what it is told of the producer's handle is true. -/

namespace BatchFlow

open Plan (Exchange)

namespace Source

variable {source : Source} {trace : List Exchange} {tie : Tie}

/-- The starting of a source that is stopped. -/
def connecting (source : Source) : Except Condition Unit → List Exchange
  | .ok _ => [⟨.advance (.producer source.key) .start, true⟩,
      ⟨.connectProducer source.key, .ok ()⟩]
  | .error cause => [⟨.advance (.producer source.key) .start, true⟩,
      ⟨.connectProducer source.key, .error cause⟩,
      ⟨.advance (.producer source.key) .abortStart, true⟩]

/-- The stopping of a source that is started. -/
def disconnecting (source : Source) : Except Condition Unit → List Exchange
  | .ok _ => [⟨.advance (.producer source.key) .beginStop, true⟩,
      ⟨.disconnectProducer source.key, .ok ()⟩,
      ⟨.advance (.producer source.key) .finishStop, true⟩]
  | .error cause => [⟨.advance (.producer source.key) .beginStop, true⟩,
      ⟨.disconnectProducer source.key, .error cause⟩,
      ⟨.log (.producerDisconnectFailed source.id cause.text), ()⟩,
      ⟨.advance (.producer source.key) .finishStop, true⟩]

/-- A source that is stopped is asked to connect, and set back if it cannot. -/
theorem start_runs_of_idle {started : Except Condition Unit}
    (runs : source.start.Runs trace started) (led : trace.foldlM Tie.after? .idle = some tie) :
    trace = source.connecting started ∧ tie = (if started.isOk then .held else .idle) := by
  obtain ⟨moved, _, rfl, more⟩ := Plan.runs_call_bind_iff.mp runs
  cases moved with
  -- A handle that is stopped does not refuse to start, so nobody was told that it did.
  | false => cases led
  | true =>
    -- The connection succeeds, or the handle is set back.
    obtain ⟨connected, _, rfl, last⟩ := Plan.runs_call_bind_iff.mp more
    cases connected with
    | ok _ =>
      obtain ⟨rfl, rfl⟩ := Plan.runs_done_iff.mp last
      cases led
      exact ⟨rfl, rfl⟩
    | error cause =>
      obtain ⟨moved, _, rfl, ends⟩ := Plan.runs_call_bind_iff.mp last
      obtain ⟨rfl, rfl⟩ := Plan.runs_done_iff.mp ends
      cases moved with
      | false => cases led
      | true =>
        cases led
        exact ⟨rfl, rfl⟩

/-- However far the starting of a stopped source is followed, it goes as it does to the end. -/
theorem start_reaches_of_idle {left : Plan (Except Condition Unit)}
    (reaches : source.start.Reaches trace left) (led : trace.foldlM Tie.after? .idle = some tie) :
    ∃ reply, trace <+: source.connecting reply := by
  -- Each question may be the last one so far, and otherwise it was answered.
  rcases Plan.reaches_ask_iff.mp reaches with ⟨rfl, _⟩ | ⟨moved, _, rfl, more⟩
  · exact ⟨.ok (), List.nil_prefix⟩
  · cases moved with
    -- A handle that is stopped does not refuse to start.
    | false => cases led
    | true =>
      rcases Plan.reaches_ask_iff.mp more with ⟨rfl, _⟩ | ⟨connected, _, rfl, last⟩
      · exact ⟨.ok (), by simp [connecting]⟩
      · cases connected with
        | ok _ =>
          obtain ⟨rfl, _⟩ := Plan.reaches_done_iff.mp last
          exact ⟨.ok (), List.prefix_rfl⟩
        | error cause =>
          rcases Plan.reaches_ask_iff.mp last with ⟨rfl, _⟩ | ⟨moved, _, rfl, ends⟩
          · exact ⟨.error cause, by simp [connecting]⟩
          · obtain ⟨rfl, _⟩ := Plan.reaches_done_iff.mp ends
            cases moved with
            | false => cases led
            | true => exact ⟨.error cause, List.prefix_rfl⟩

/-- A source that is started is asked to disconnect, and is stopped whatever it answers. -/
theorem stop_runs_of_held (runs : source.stop.Runs trace ())
    (led : trace.foldlM Tie.after? .held = some tie) :
    (∃ reply, trace = source.disconnecting reply) ∧ tie = .idle := by
  obtain ⟨moved, _, rfl, more⟩ := Plan.runs_call_bind_iff.mp runs
  cases moved with
  -- A handle that is started does not refuse to stop.
  | false => cases led
  | true =>
    -- A disconnection that fails is only reported.
    obtain ⟨disconnected, _, rfl, last⟩ := Plan.runs_call_bind_iff.mp more
    cases disconnected with
    | ok _ =>
      obtain ⟨moved, _, rfl, ends⟩ := Plan.runs_call_bind_iff.mp last
      obtain ⟨rfl, _⟩ := Plan.runs_done_iff.mp ends
      cases moved with
      | false => cases led
      | true =>
        cases led
        exact ⟨⟨.ok (), rfl⟩, rfl⟩
    | error cause =>
      obtain ⟨_, _, rfl, reported⟩ := Plan.runs_call_bind_iff.mp last
      obtain ⟨moved, _, rfl, ends⟩ := Plan.runs_call_bind_iff.mp reported
      obtain ⟨rfl, _⟩ := Plan.runs_done_iff.mp ends
      cases moved with
      | false => cases led
      | true =>
        cases led
        exact ⟨⟨.error cause, rfl⟩, rfl⟩

end Source

namespace Worker

variable {worker : Worker} {trace polling after : List Exchange} {tie : Tie}

/-- A producer that was held is held when the polling ends. -/
theorem pollLoop_runs_of_held {rounds : Nat} {outcome : Except WorkerFailure Unit}
    (runs : (worker.pollLoop rounds).Runs polling outcome)
    (led : polling.foldlM Tie.after? .held = some tie) : tie = .held := by
  -- What the rules of attendance keep is kept for the state that is known.
  have held : Held (some .held) := fun _ same => (Option.some.inj same).symm
  obtain ⟨_, ended⟩ :=
    (worker.pollLoop_observes held rounds).reaches runs.reaches (attendance_foldlM led)
  exact ended tie rfl

/-- The position that is given back, if one was reported. -/
def restoring (worker : Worker) : Option Item → List Exchange
  | none => []
  | some context => [⟨.setContext worker.source.key context, ()⟩]

/-- The recovery of a worker whose producer is held: the producer tells its position, is
disconnected, and is given it back when the pause is over. -/
def recovering (worker : Worker) (attempt : Nat) (failure : WorkerFailure) (context : Option Item)
    (reply : Except Condition Unit) : List Exchange :=
  ⟨.log (.workerRestarting worker.source.id attempt worker.restart.limit worker.restart.delay
      failure.text), ()⟩ ::
    ⟨.contextOf worker.source.key, context⟩ :: (worker.source.disconnecting reply ++
      ⟨.pause worker.restart.delay, false⟩ :: worker.restoring context)

/-- A recovery that leads to another connection has come to its end. -/
theorem recover_runs_of_held {attempt : Nat} {failure : WorkerFailure}
    (runs : (worker.recover attempt failure).Runs trace true)
    (led : trace.foldlM Tie.after? .held = some tie) :
    (∃ context reply, trace = worker.recovering attempt failure context reply) ∧ tie = .idle := by
  obtain ⟨_, _, rfl, asked⟩ := Plan.runs_call_bind_iff.mp runs
  obtain ⟨context, _, rfl, more⟩ := Plan.runs_call_bind_iff.mp asked
  obtain ⟨_, stopping, _, rfl, stops, rest⟩ := Plan.runs_bind_iff.mp more
  obtain ⟨cut, resuming, rfl, resumes⟩ := Plan.runs_call_bind_iff.mp rest
  -- Neither the report nor the question for the position changes anything.
  have led : (stopping ++ ⟨.pause worker.restart.delay, cut⟩ :: resuming).foldlM Tie.after?
      .held = some tie := led
  rw [List.foldlM_append] at led
  obtain ⟨stopped, first, further⟩ := Option.bind_eq_some_iff.mp led
  obtain ⟨⟨reply, rfl⟩, rfl⟩ := Source.stop_runs_of_held stops first
  cases cut with
  | true =>
    -- A recovery that is cut short does not go on.
    obtain ⟨_, same⟩ := Plan.runs_done_iff.mp resumes
    cases same
  | false =>
    cases context with
    | none =>
      obtain ⟨rfl, _⟩ := Plan.runs_done_iff.mp resumes
      cases further
      exact ⟨⟨none, reply, rfl⟩, rfl⟩
    | some context =>
      obtain ⟨_, _, rfl, ends⟩ := Plan.runs_call_bind_iff.mp resumes
      obtain ⟨rfl, _⟩ := Plan.runs_done_iff.mp ends
      cases further
      exact ⟨⟨some context, reply, rfl⟩, rfl⟩

/-- What passes from the beginning of a polling that fails until the producer may be connected
again. -/
def lapse (worker : Worker) (polling : List Exchange) (attempt : Nat) (failure : WorkerFailure)
    (context : Option Item) (reply : Except Condition Unit) : List Exchange :=
  polling ++ ⟨.isCancelled, false⟩ :: worker.recovering attempt failure context reply

/-- What a worker with so many restarts left has gone through so far, and its pollings: before each
of them the producer was connected, and between two of them the worker recovered from a failure. -/
inductive Tries (worker : Worker) : Nat → List Exchange → List (List Exchange) → Prop where
  | starting {left : Nat} {trace : List Exchange} {reply : Except Condition Unit}
      (begun : trace <+: worker.source.connecting reply) : Tries worker left trace []
  | polling {left : Nat} {polling : List Exchange} {rest : Plan (Except WorkerFailure Unit)}
      (reached : (worker.pollLoop worker.allowance.rounds).Reaches polling rest) :
    Tries worker left (worker.source.connecting (.ok ()) ++ polling) [polling]
  | leaving {left : Nat} {polling after : List Exchange} {outcome : Except WorkerFailure Unit}
      (polled : (worker.pollLoop worker.allowance.rounds).Runs polling outcome)
      (leaves : ∀ exchange ∈ after,
        exchange.call = .isCancelled ∨ exchange.call.isLeaving = true) :
    Tries worker left (worker.source.connecting (.ok ()) ++ (polling ++ after)) [polling]
  | again {left : Nat} {polling trace : List Exchange} {failure : WorkerFailure}
      {context : Option Item} {reply : Except Condition Unit} {pollings : List (List Exchange)}
      (polled : (worker.pollLoop worker.allowance.rounds).Runs polling (.error failure))
      (rest : Tries worker left trace pollings) :
    Tries worker (left + 1)
      (worker.source.connecting (.ok ()) ++
        (worker.lapse polling (worker.restart.limit - left) failure context reply ++ trace))
      (polling :: pollings)

/-- A worker that stops its producer before it ends polls no more. -/
theorem tries_of_stop (before : List Exchange) {left : Nat} {outcome : Except WorkerFailure Unit}
    {exit : WorkerExit} {rest : Plan WorkerExit}
    (polled : (worker.pollLoop worker.allowance.rounds).Runs polling outcome)
    (reaches : (worker.source.stop.bind fun _ => .done exit).Reaches after rest)
    (asked : ∀ exchange ∈ before, exchange.call = .isCancelled ∨ exchange.call.isLeaving = true) :
    worker.Tries left (worker.source.connecting (.ok ()) ++ (polling ++ (before ++ after)))
      [polling] := by
  refine .leaving polled (List.forall_mem_append.mpr ⟨asked, fun exchange later => .inr ?_⟩)
  -- What is asked for the stop, and after it, is asked on the way out.
  have leaves : (worker.source.stop.bind fun _ => Plan.done exit).Confined (·.isLeaving = true)
      False fun _ => True := (stop_leaves worker.source).bind fun _ _ => trivial
  exact (leaves.reaches reaches).1 exchange later

/-- As long as it recovers, a worker polls no more either. -/
theorem tries_of_recovery {left : Nat} {outcome : Except WorkerFailure Unit}
    (polled : (worker.pollLoop worker.allowance.rounds).Runs polling outcome)
    (leaves : ∀ exchange ∈ after, exchange.call.isLeaving = true) :
    worker.Tries left
      (worker.source.connecting (.ok ()) ++ (polling ++ ⟨.isCancelled, false⟩ :: after))
      [polling] :=
  .leaving polled (List.forall_mem_cons.mpr
    ⟨.inl rfl, fun exchange asked => .inr (leaves exchange asked)⟩)

/-- A session is under way until its polling fails. -/
theorem session_tries {left : Nat} {failing : WorkerFailure → Plan WorkerExit}
    {rest : Plan WorkerExit} (reaches : (worker.session failing).Reaches trace rest)
    (led : trace.foldlM Tie.after? .idle = some tie)
    (fails : ∀ polling failure after,
      (worker.pollLoop worker.allowance.rounds).Runs polling (.error failure) →
      (failing failure).Reaches after rest → after.foldlM Tie.after? .held = some tie →
      ∃ pollings, worker.Tries left (worker.source.connecting (.ok ()) ++ (polling ++ after))
        pollings) :
    ∃ pollings, worker.Tries left trace pollings := by
  -- Either the session is left while it starts, or the producer was connected or refused.
  rcases Plan.reaches_bind_cases reaches with ⟨_, starts, _, _⟩ |
    ⟨started, before, later, rfl, starts, more⟩
  · obtain ⟨reply, begun⟩ := Source.start_reaches_of_idle starts led
    exact ⟨[], .starting begun⟩
  rw [List.foldlM_append] at led
  obtain ⟨connected, first, led⟩ := Option.bind_eq_some_iff.mp led
  obtain ⟨rfl, rfl⟩ := Source.start_runs_of_idle starts first
  cases started with
  | error cause =>
    obtain ⟨rfl, _⟩ := Plan.reaches_done_iff.mp more
    rw [List.append_nil]
    exact ⟨[], .starting List.prefix_rfl⟩
  | ok _ =>
    -- Either it is left while it polls, or the polling has come to its end.
    rcases Plan.reaches_bind_cases more with ⟨_, polls, _, _⟩ |
      ⟨outcome, polling, after, rfl, polled, last⟩
    · exact ⟨[later], .polling polls⟩
    rw [List.foldlM_append] at led
    obtain ⟨ended, second, led⟩ := Option.bind_eq_some_iff.mp led
    obtain rfl := pollLoop_runs_of_held polled second
    cases outcome with
    | error failure => exact fails polling failure after polled last led
    | ok _ => exact ⟨_, tries_of_stop [] polled last (by simp)⟩

/-- However many restarts are left, and however far the worker has come, it has gone from one
polling to the next. -/
theorem serve_tries {left : Nat} {rest : Plan WorkerExit}
    (reaches : (worker.serve left).Reaches trace rest)
    (led : trace.foldlM Tie.after? .idle = some tie) :
    ∃ pollings, worker.Tries left trace pollings := by
  -- Each restart is another session, so the induction is on the restarts.
  induction left generalizing trace with
  | zero =>
    rw [serve_eq] at reaches
    exact session_tries reaches led fun polling failure after polled last _ =>
      ⟨_, tries_of_stop [] polled last (by simp)⟩
  | succ left ih =>
    rw [serve_eq] at reaches
    refine session_tries reaches led fun polling failure after polled last led => ?_
    rcases Plan.reaches_call_bind_iff.mp last with ⟨rfl, _⟩ | ⟨cancelled, later, rfl, more⟩
    · -- With the look at the run alone, the worker is leaving.
      exact ⟨_, .leaving polled (by simp)⟩
    · cases cancelled with
      | true => exact ⟨_, tries_of_stop [_] polled more (by simp)⟩
      | false =>
        rcases Plan.reaches_bind_cases more with ⟨_, recovers, _, _⟩ |
          ⟨goesOn, recovery, trace, rfl, recovered, further⟩
        · exact ⟨_, tries_of_recovery polled ((recover_leaves _ _).reaches recovers).1⟩
        · cases goesOn with
          | false =>
            obtain ⟨rfl, _⟩ := Plan.reaches_done_iff.mp further
            rw [List.append_nil]
            exact ⟨_, tries_of_recovery polled ((recover_leaves _ _).runs recovered).1⟩
          | true =>
            -- The producer is stopped again, so what comes next is as it was at first.
            have led : (recovery ++ trace).foldlM Tie.after? .held = some tie := led
            rw [List.foldlM_append] at led
            obtain ⟨idle, first, led⟩ := Option.bind_eq_some_iff.mp led
            obtain ⟨⟨context, reply, rfl⟩, rfl⟩ := recover_runs_of_held recovered first
            obtain ⟨pollings, tries⟩ := ih further led
            rw [← List.cons_append, ← List.append_assoc polling]
            exact ⟨_, .again polled tries⟩

end Worker

end BatchFlow
