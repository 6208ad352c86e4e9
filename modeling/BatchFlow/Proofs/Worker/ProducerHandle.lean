import BatchFlow.Proofs.Router.Destinations
import BatchFlow.Worker

/-! What a worker does with its producer: it is connected only while it is not, polled and
disconnected only while it is, and disconnected however the worker comes to its end. -/

namespace BatchFlow

open Plan (Exchange Observes)

/-- The producer whose handle or connection a question is about. -/
def Call.tied? : Call → Option Nat
  | .advance (.producer key) _ | .connectProducer key | .disconnectProducer key | .poll key _ =>
    some key
  | _ => none

/-- The state of a producer's handle, and whether the producer is connected. -/
structure Tie where
  lifecycle : Lifecycle
  attached : Bool
deriving DecidableEq

namespace Tie

/-- The producer is not connected, and can be started. -/
def idle : Tie := ⟨.stopped, false⟩

/-- The producer is connected, and can be polled and stopped. -/
def held : Tie := ⟨.started, true⟩

/-- What may be asked of the producer: a handle changes before the connection does. -/
def Admits (tie : Tie) : Call → Prop
  | .connectProducer _ => tie = ⟨.started, false⟩
  | .poll .. => tie = held
  | .disconnectProducer _ => tie = ⟨.stopping, true⟩
  | _ => True

/-- What an exchange with the producer changes. What is said of its handle is true. -/
def after? (tie : Tie) : Exchange → Option Tie
  | ⟨.advance (.producer _) transition, moved⟩ =>
    let (lifecycle, moves) := tie.lifecycle.advance transition
    if moved = moves then some { tie with lifecycle } else none
  | ⟨.connectProducer _, .ok _⟩ => some { tie with attached := true }
  | ⟨.disconnectProducer _, _⟩ => some { tie with attached := false }
  | _ => some tie

end Tie

/-- How a worker attends to its producer. Where nothing is known of the producer, at least no other
producer is touched. -/
def attendance (key : Nat) : Plan.Rules (Option Tie) where
  permits known call := (∀ other, call.tied? = some other → other = key) ∧
    ∀ tie, known = some tie → tie.Admits call
  after? known exchange :=
    match known with
    | none => some none
    | some tie => (tie.after? exchange).map some
  boundless := True

namespace Worker

variable {key : Nat} {ρ : Type} {ends : ρ → Option Tie → Prop} {known : Option Tie}

/-- The producer is in this state, if anything is known of it. -/
def Is (state : Tie) (known : Option Tie) : Prop := ∀ tie, known = some tie → tie = state

/-- The producer is idle, if anything is known of it. -/
abbrev Idle : Option Tie → Prop := Is .idle

/-- The producer is held, if anything is known of it. -/
abbrev Held : Option Tie → Prop := Is .held

/-- A worker may begin with the producer idle or held, as far as anything is known of it. -/
def Fresh (known : Option Tie) : Prop := ∀ tie, known = some tie → tie = .idle ∨ tie = .held

/-- What is known after an exchange is what the exchange makes of what was known before. -/
def Follows (exchange : Exchange) (known later : Option Tie) : Prop :=
  ∀ tied, later = some tied → ∃ tie, known = some tie ∧ tie.after? exchange = some tied

/-- After an exchange the producer is in the state that the exchange leads to. -/
theorem Is.after {before next : Tie} {exchange : Exchange} {later : Option Tie}
    (was : Is before known) (follows : Follows exchange known later)
    (leads : ∀ tied, before.after? exchange = some tied → tied = next) : Is next later := by
  intro tied same
  obtain ⟨tie, knew, led⟩ := follows tied same
  cases was tie knew
  exact leads tied led

/-- A question about something else is permitted at any time. -/
theorem attendance_permits {call : Call} (other : call.tied? = none) :
    (attendance key).permits known call := by
  refine ⟨by simp [other], fun tie _ => ?_⟩
  cases call <;> trivial

/-- A question about something else changes nothing. -/
theorem attendance_after {call : Call} (other : call.tied? = none) (reply : call.Reply)
    {later : Option Tie} (led : (attendance key).after? known ⟨call, reply⟩ = some later) :
    later = known := by
  cases known with
  | none => cases led; rfl
  | some tie =>
    -- What is not about a producer does not change the state of one.
    have same : tie.after? ⟨call, reply⟩ = some tie := by
      cases call with
      | advance component transition => cases component <;> first | rfl | simp [Call.tied?] at other
      | _ => first | rfl | simp [Call.tied?] at other
    simpa [attendance, same, eq_comm] using led

/-- What is known of a producer after a trace is what the trace makes of what was known before. -/
theorem attendance_foldlM {trace : List Exchange} {tie last : Tie}
    (led : trace.foldlM Tie.after? tie = some last) :
    trace.foldlM (attendance key).after? (some tie) = some (some last) := by
  induction trace generalizing tie with
  | nil =>
    cases led
    rfl
  | cons exchange rest ih =>
    -- Each exchange makes of the known state what it makes of the state itself.
    obtain ⟨middle, first, further⟩ := Option.bind_eq_some_iff.mp led
    have known : (attendance key).after? (some tie) exchange = some (some middle) := by
      simp [attendance, first]
    exact Option.bind_eq_some_iff.mpr ⟨_, known, ih further⟩

/-- A question about something else goes on from any answer, with the producer as it was. -/
theorem observes_ask {call : Call} {next : call.Reply → Plan ρ} (other : call.tied? = none)
    (rest : ∀ reply, (next reply).Observes (attendance key) ends known) :
    (Plan.ask call next).Observes (attendance key) ends known :=
  ⟨attendance_permits other, fun reply _ led => attendance_after other reply led ▸ rest reply⟩

/-- A plan that asks about other things only leaves the producer as it is. -/
theorem observes_of_confined {plan : Plan ρ} {kept : ρ → Prop}
    (confined : plan.Confined (·.tied? = none) True kept) :
    plan.Observes (attendance key) (fun result later => kept result ∧ later = known) known :=
  confined.observes (fun _ other => attendance_permits other)
    (fun _ reply _ other led => attendance_after other reply led) id

/-- A question about the worker's own producer goes on from whatever the answer makes of it. -/
theorem observes_own {call : Call} {next : call.Reply → Plan ρ} (own : call.tied? = some key)
    (admits : ∀ tie, known = some tie → tie.Admits call)
    (rest : ∀ reply later, Follows ⟨call, reply⟩ known later →
      (next reply).Observes (attendance key) ends later) :
    (Plan.ask call next).Observes (attendance key) ends known := by
  refine ⟨⟨fun other same => Option.some.inj (same.symm.trans own), admits⟩,
    fun reply later led => rest reply later fun tied same => ?_⟩
  subst same
  -- Where nothing is known before, nothing can be known after.
  cases known with
  | none => cases led
  | some tie =>
    obtain ⟨changed, led, same⟩ := Option.map_eq_some_iff.mp led
    cases same
    exact ⟨tie, rfl, led⟩

/-- Starting a producer that is idle or held leaves it held, or idle if it cannot be connected. -/
theorem start_observes (source : Source) (fresh : Fresh known) :
    source.start.Observes (attendance source.key)
      (fun started later => match started with
        | .ok _ => Held later
        | .error _ => Idle later) known := by
  refine observes_own rfl (fun _ _ => trivial) fun moved later follows => ?_
  cases moved with
  | false =>
    -- Only a producer that is held does not have its handle moved.
    intro tied same
    obtain ⟨tie, was, led⟩ := follows tied same
    rcases fresh tie was with rfl | rfl
    · cases led
    · cases led
      rfl
  | true =>
    have opened : Is ⟨.started, false⟩ later := by
      intro tied same
      obtain ⟨tie, was, led⟩ := follows tied same
      rcases fresh tie was with rfl | rfl
      · cases led
        rfl
      · cases led
    refine observes_own rfl opened fun connected last follows => ?_
    cases connected with
    | ok _ => exact opened.after follows (by rintro _ ⟨⟩; rfl)
    | error cause =>
      -- The handle is set back, so that the producer can be started again.
      have refused : Is ⟨.started, false⟩ last := opened.after follows (by rintro _ ⟨⟩; rfl)
      refine observes_own rfl (fun _ _ => trivial) fun moved final follows => ?_
      exact refused.after follows (by cases moved <;> rintro _ ⟨⟩; rfl)

/-- Stopping a producer that is held leaves it idle. -/
theorem stop_observes (source : Source) (held : Held known) :
    source.stop.Observes (attendance source.key) (fun _ later => Idle later) known := by
  refine observes_own rfl (fun _ _ => trivial) fun moved later follows => ?_
  cases moved with
  | false =>
    -- A handle that is started cannot refuse to stop.
    exact held.after follows (by rintro _ ⟨⟩)
  | true =>
    have stopping : Is ⟨.stopping, true⟩ later := held.after follows (by rintro _ ⟨⟩; rfl)
    refine observes_own rfl stopping fun disconnected last follows => ?_
    have detached : Is ⟨.stopping, false⟩ last :=
      stopping.after follows (by cases disconnected <;> rintro _ ⟨⟩ <;> rfl)
    have finishes : (Plan.ask (.advance (.producer source.key) .finishStop) fun _ =>
        Plan.done ()).Observes (attendance source.key) (fun _ later => Idle later) last := by
      refine observes_own rfl (fun _ _ => trivial) fun moved final follows => ?_
      exact detached.after follows (by cases moved <;> rintro _ ⟨⟩; rfl)
    -- A failure is only reported, and the handle is stopped all the same.
    cases disconnected with
    | ok _ => exact finishes
    | error cause => exact observes_ask rfl fun _ => finishes

/-- Routing a batch asks nothing about the connection of any producer. -/
theorem routeBatch_confined (worker : Worker) (items : List Item) :
    (worker.routeBatch items).Confined (·.tied? = none) True fun _ => True := by
  have names : (worker.messageFor items).Confined (·.tied? = none) True fun _ => True := by
    refine ⟨rfl, fun metadata _ _ => ⟨rfl, fun context _ _ => ?_⟩⟩
    dsimp only
    split
    · exact ⟨rfl, fun _ _ _ => trivial⟩
    · trivial
  -- A walk may go wherever it likes, since no node is a producer.
  have routes := worker.router.route_confined fun (call : Call) walks => by
    show call.tied? = none
    rcases walks with ⟨node, applied⟩ | shared
    · cases call <;> first | rfl | simp [Call.applied?] at applied
    · cases call <;> first | rfl | simp [Call.isShared] at shared
  -- The producer hears of a walk that went well, and not as its connection.
  refine names.bind fun message _ => (routes _ message).bind fun routed _ => ?_
  cases routed with
  | error failure => trivial
  | ok results =>
    refine ⟨rfl, fun told _ _ => ?_⟩
    cases told <;> trivial

/-- A producer that is held is polled and stays so, however the polls turn out. -/
theorem pollLoop_observes (worker : Worker) (held : Held known) (rounds : Nat) :
    (worker.pollLoop rounds).Observes (attendance worker.source.key) (fun _ later => Held later)
      known := by
  -- Every round ends as it began, or is the last one.
  induction rounds generalizing known with
  | zero => trivial
  | succ rounds ih =>
    refine observes_ask rfl fun cancelled => ?_
    cases cancelled with
    | true => exact held
    | false =>
      refine observes_ask rfl fun exhausted => ?_
      cases exhausted with
      | true => exact held
      | false =>
        refine observes_own rfl held fun polled later follows => ?_
        have held : Held later := held.after follows (by rintro _ ⟨⟩; rfl)
        cases polled with
        | cancelled => exact held
        | nothing => exact ih held
        | batch items =>
          cases items with
          | nil => exact ih held
          | cons first rest =>
            -- A batch is routed before the next poll, which is nothing to the producer.
            refine (observes_of_confined (worker.routeBatch_confined _)).bind ?_
            rintro routed _ ⟨_, rfl⟩
            cases routed with
            | error failure => exact held
            | ok _ => exact ih held
        | failed cause =>
          -- Only a fatal failure ends the polling.
          dsimp only [Plan.bind]
          split
          · exact held
          · exact observes_ask rfl fun _ => ih held

/-- Between a failure and the next connection the producer is idle. -/
theorem recover_observes (worker : Worker) (held : Held known) (attempt : Nat)
    (failure : WorkerFailure) :
    (worker.recover attempt failure).Observes (attendance worker.source.key)
      (fun _ later => Idle later) known := by
  refine observes_ask rfl fun _ => observes_ask rfl fun context => ?_
  refine (stop_observes worker.source held).bind fun _ later idle => ?_
  refine observes_ask rfl fun cut => ?_
  -- Whether or not the pause was cut short, the producer has been stopped before it.
  cases cut with
  | true => exact idle
  | false =>
    cases context with
    | none => exact idle
    | some context => exact observes_ask rfl fun _ => idle

/-- What a worker does until the polling ends, and then does about a failure of it. -/
def session (worker : Worker) (failing : WorkerFailure → Plan WorkerExit) : Plan WorkerExit := do
  match ← worker.source.start with
  | .error cause => return worker.failed (.connect worker.source.id cause)
  | .ok () =>
    match ← worker.pollLoop worker.allowance.rounds with
    | .ok () =>
      worker.source.stop
      return worker.clean
    | .error failure => failing failure

/-- A producer that was connected is stopped when there is nothing more to poll. Otherwise it
depends on what is done about the failure. -/
theorem session_observes (worker : Worker) (fresh : Fresh known)
    {failing : WorkerFailure → Plan WorkerExit}
    (fails : ∀ failure {later : Option Tie}, Held later →
      (failing failure).Observes (attendance worker.source.key) (fun _ last => Idle last) later) :
    (worker.session failing).Observes (attendance worker.source.key) (fun _ last => Idle last)
      known := by
  -- Three plans follow each other: starting, polling, and whatever the polling leads to.
  refine (start_observes worker.source fresh).bind fun started later connected => ?_
  -- A producer that could not be connected was set back to idle.
  cases started with
  | error cause => exact connected
  | ok _ =>
    refine (worker.pollLoop_observes connected _).bind fun ended last held => ?_
    cases ended with
    | ok _ => exact (stop_observes worker.source held).bind fun _ _ idle => idle
    | error failure => exact fails failure held

/-- However many restarts are left, a worker that begins with its producer idle or held leaves it
idle. -/
theorem serve_observes (worker : Worker) (left : Nat) (fresh : Fresh known) :
    (worker.serve left).Observes (attendance worker.source.key) (fun _ later => Idle later)
      known := by
  -- Each restart is another session, so the induction is on the restarts.
  induction left generalizing known with
  | zero =>
    unfold serve
    exact worker.session_observes fresh fun failure later held =>
      (stop_observes worker.source held).bind fun _ _ idle => idle
  | succ left ih =>
    unfold serve
    refine worker.session_observes fresh fun failure later held => ?_
    refine observes_ask rfl fun cancelled => ?_
    cases cancelled with
    | true => exact (stop_observes worker.source held).bind fun _ _ idle => idle
    | false =>
      refine (worker.recover_observes held _ _).bind fun goesOn last idle => ?_
      -- The next session begins with the producer idle again.
      cases goesOn with
      | true => exact ih fun tie same => .inl (idle tie same)
      | false => exact idle

/-- A worker that begins with its producer idle or held leaves it idle, in whatever way it ends. -/
theorem run_observes (worker : Worker) (fresh : Fresh known) :
    worker.run.Observes (attendance worker.source.key) (fun _ later => Idle later) known := by
  refine observes_ask rfl fun _ => ?_
  -- Reports come before and after the sessions.
  refine (worker.serve_observes _ fresh).bind fun exit later idle => ?_
  cases exit.failure with
  | none => exact observes_ask rfl fun _ => idle
  | some failure => exact observes_ask rfl fun _ => observes_ask rfl fun _ => idle

end Worker

end BatchFlow
