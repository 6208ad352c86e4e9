import BatchFlow.Proofs.Adaptor.Supervision
import BatchFlow.Proofs.Plan.Environment

/-! How an adaptor hears of a failure. It opens a run before anything happens in it, and cancels it
only for a failure that it has received. Failing fast, it does so at once. -/

namespace BatchFlow

open Plan (Exchange Passes)

/-- Where an adaptor stands towards the failures in its run. -/
inductive FailureState where
  /-- The run has not been opened. -/
  | off
  /-- There is no failure to be dealt with. -/
  | quiet
  /-- A failure was received. -/
  | raised
  /-- A failure was received, and the run is not cancelled. -/
  | unheeded

/-- A question that is neither about a failure nor about a run or its workers. -/
def Call.isCalm : Call → Bool
  | .openRun | .isCancelled | .cancelRun | .pause _ | .poll .. | .nextExit | .spawnWorker _ => false
  | _ => true

/-- The end of a worker that the adaptor heard of was a failure. -/
def Plan.Exchange.isFailure : Exchange → Bool
  | ⟨.nextExit, (_, code)⟩ => code != 0
  | _ => false

/-- What an adaptor may do next about the failures in its run, and where that leaves it. -/
def failFastRules (failFast : Bool) : Plan.Rules FailureState where
  permits state call :=
    match state with
    | .off => call.isCalm ∨ call = .openRun
    | .quiet => call.isCalm ∨ call = .nextExit ∨ ∃ key, call = .spawnWorker key
    | .raised => call = .isCancelled
    | .unheeded => call = .cancelRun ∨ ∃ event, call = .log event
  after? state exchange :=
    match state, exchange with
    | .off, ⟨.openRun, _⟩ => some .quiet
    -- Only the end of a worker counts as a failure, and only an adaptor that fails fast reacts to
    -- it.
    | .quiet, exchange => some (if exchange.isFailure && failFast then .raised else .quiet)
    | .raised, ⟨.isCancelled, cancelled⟩ => some (if cancelled then .quiet else .unheeded)
    | .unheeded, ⟨.cancelRun, _⟩ => some .quiet
    | state, _ => some state
  boundless := False

/-- The rules follow every exchange somewhere, whatever the reply to it was. -/
theorem failFastRules_total (failFast : Bool) : (failFastRules failFast).Total := by
  intro state exchange
  unfold failFastRules
  dsimp only
  split <;> exact ⟨_, rfl⟩

/-- There is no failure to be dealt with, whether or not the run has been opened. -/
def FailureState.IsCalm (state : FailureState) : Prop := state = .off ∨ state = .quiet

section FailureState

variable {failFast : Bool} {state : FailureState} {ρ : Type} {ends : ρ → FailureState → Prop}

/-- A calm question may be asked before the run is opened, and while there is no failure. -/
theorem failFastRules_permits {call : Call} (calm : call.isCalm = true) (stands : state.IsCalm) :
    (failFastRules failFast).permits state call := by
  rcases stands with rfl | rfl
  · exact .inl calm
  · exact .inl calm

/-- A calm question changes nothing about the failures in a run. -/
theorem failFastRules_after {call : Call} {later : FailureState} (calm : call.isCalm = true)
    (stands : state.IsCalm) (reply : call.Reply)
    (led : (failFastRules failFast).after? state ⟨call, reply⟩ = some later) : later = state := by
  -- Of the exchanges that change the state, none is calm.
  rcases stands with rfl | rfl
  all_goals cases call <;> first | (cases led; rfl) | cases calm

/-- A plan may begin with a calm question, if what it does next keeps to the rules. -/
theorem failFastRules_ask {call : Call} {next : call.Reply → Plan ρ} (calm : call.isCalm = true)
    (stands : state.IsCalm)
    (rest : ∀ reply, (next reply).Observes (failFastRules failFast) ends state) :
    (Plan.ask call next).Observes (failFastRules failFast) ends state :=
  ⟨failFastRules_permits calm stands, fun reply _ led =>
    failFastRules_after calm stands reply led ▸ rest reply⟩

/-- A plan that only tends nodes raises no failure, so that it ends where it began. -/
theorem failFastRules_of_tending {plan : Plan ρ} {kept : ρ → Prop} (stands : state.IsCalm)
    (confined : plan.Confined (·.isTending = true) False kept) :
    plan.Observes (failFastRules failFast)
      (fun result later => kept result ∧ later = state) state := by
  -- The questions to a node are calm ones.
  have calm : ∀ call : Call, call.isTending = true → call.isCalm = true := by
    intro call tending
    cases call <;> first | rfl | cases tending
  exact confined.observes (fun _ tending => failFastRules_permits (calm _ tending) stands)
    (fun _ reply _ tending led => failFastRules_after (calm _ tending) stands reply led) id

end FailureState

namespace Adaptor

variable {failFast : Bool}

/-- Starting the workers is no failure. -/
theorem spawnEach_observes_failFastRules (sources : List Source) :
    (spawnEach sources).Observes (failFastRules failFast)
      (fun _ later => later = .quiet) .quiet := by
  -- By induction on the sources; each beginning leaves the rules where they are.
  induction sources with
  | nil => rfl
  | cons source rest ih =>
    refine ⟨.inr (.inr ⟨source.key, rfl⟩), fun _ later led => ?_⟩
    cases led
    exact ih

/-- A failure is dealt with before the next exit is waited for. -/
theorem supervise_observes_failFastRules (remaining : Nat) :
    (supervise failFast remaining).Observes (failFastRules failFast) (fun _ later => later = .quiet)
      .quiet := by
  induction remaining with
  | zero => rfl
  | succ remaining ih =>
    refine ⟨.inr (.inl rfl), fun exit later led => ?_⟩
    obtain ⟨producer, code⟩ := exit
    dsimp only [Plan.bind]
    by_cases failed : code ≠ 0 ∧ failFast = true
    · -- A failure that counts: the run is found cancelled, or it is cancelled now.
      rw [if_pos failed]
      obtain rfl : .raised = later := by simpa [failFastRules, Exchange.isFailure, failed] using led
      refine ⟨rfl, fun cancelled later led => ?_⟩
      cases led
      cases cancelled with
      | true => exact ih
      | false =>
        refine ⟨.inr ⟨_, rfl⟩, fun _ later led => ?_⟩
        cases led
        refine ⟨.inl rfl, fun _ later led => ?_⟩
        cases led
        exact ih
    · -- Either the worker ended well, or the adaptor does not fail fast.
      rw [if_neg failed]
      obtain rfl : .quiet = later := by
        by_cases zero : code = 0
        · simpa [failFastRules, Exchange.isFailure, zero] using led
        · have slow : failFast = false := by simpa [zero] using failed
          simpa [failFastRules, slow] using led
      exact ih

/-- Waiting for the workers in turn raises no failure, whatever their exits say. -/
theorem collect_observes_failFastRules (report : Report) (sources : List Source) :
    (collect report sources).Observes (failFastRules failFast)
      (fun _ later => later = .quiet) .quiet := by
  -- Each exit is asked for, and the rules stay quiet whatever it is.
  induction sources generalizing report with
  | nil => rfl
  | cons source rest ih => exact failFastRules_ask rfl (.inr rfl) fun exit => ih _

/-- Shutting the producers down raises no failure. -/
theorem shutdownEach_observes_failFastRules (sources : List Source) :
    (shutdownEach sources).Observes (failFastRules failFast)
      (fun _ later => later = .quiet) .quiet := by
  induction sources with
  | nil => rfl
  | cons source rest ih => exact failFastRules_ask rfl (.inr rfl) fun _ => ih

/-- A run between the two changes of its lifecycle deals with every failure before it goes on. -/
theorem runStarted_observes_failFastRules (adaptor : Adaptor) :
    adaptor.runStarted.Observes (failFastRules adaptor.options.failFast)
      (fun _ later => later.IsCalm)
      .off := by
  unfold runStarted
  dsimp only
  split
  · -- What was found beforehand is reported, and the run is never opened.
    refine (failFastRules_of_tending (.inl rfl) (reportDefects_confined _)).bind ?_
    rintro _ _ ⟨_, rfl⟩
    exact .inl rfl
  · refine failFastRules_ask rfl (.inl rfl) fun start =>
      failFastRules_ask rfl (.inl rfl) fun _ => ?_
    -- A node that cannot be started leaves the run unopened, too.
    refine (failFastRules_of_tending (.inl rfl) adaptor.startNodes_confined).bind ?_
    rintro started _ ⟨_, rfl⟩
    cases started with
    | error refusal => exact .inl rfl
    | ok _ =>
      -- From here on the run is open.
      have works : adaptor.runWorkers.Observes (failFastRules adaptor.options.failFast)
          (fun _ later => later = .quiet) .off := by
        refine ⟨.inr rfl, fun _ later led => ?_⟩
        cases led
        refine (spawnEach_observes_failFastRules _).bind ?_
        rintro _ _ rfl
        refine (supervise_observes_failFastRules _).bind ?_
        rintro _ _ rfl
        exact collect_observes_failFastRules _ _
      refine works.bind ?_
      rintro report _ rfl
      refine (shutdownEach_observes_failFastRules _).bind ?_
      rintro _ _ rfl
      refine (failFastRules_of_tending (.inr rfl) (stopEach_confined _)).bind ?_
      rintro _ _ ⟨_, rfl⟩
      exact failFastRules_ask rfl (.inr rfl) fun _ =>
        failFastRules_ask rfl (.inr rfl) fun _ => .inr rfl

/-- From its beginning to its end, a run keeps to these rules, and it deals with every failure
before it is over. -/
theorem run_observes_failFastRules (adaptor : Adaptor) :
    adaptor.run.Observes (failFastRules adaptor.options.failFast)
      (fun _ later => later.IsCalm) .off := by
  -- A run that was not opened has nothing to deal with, and another one ends as calmly as it began.
  refine failFastRules_ask rfl (.inl rfl) fun moved => ?_
  cases moved with
  | false => exact .inl rfl
  | true =>
    refine adaptor.runStarted_observes_failFastRules.bind fun result later calm => ?_
    exact failFastRules_ask rfl calm fun _ => failFastRules_ask rfl calm fun _ => calm

/-- Whatever an adaptor is answered, its run comes to an end. -/
theorem run_ends (adaptor : Adaptor) : adaptor.run.Ends :=
  adaptor.run_observes_failFastRules.comesToAnEnd (failFastRules_total _) id

end Adaptor

section Traces

variable {failFast : Bool} {state last : FailureState} {trace : List Exchange}

/-- A run is opened only once. -/
theorem failFastRules_opens_once (passes : Passes (failFastRules failFast).Grants state trace last)
    (on : state ≠ .off) : last ≠ .off ∧ ∀ exchange ∈ trace, exchange.call ≠ .openRun := by
  -- The invariant is that the run is open. No state but the first permits to open it, and none
  -- leads back there.
  induction passes with
  | start state => exact ⟨on, by simp⟩
  | @next state middle last exchange trace granted _ ih =>
    obtain ⟨call, reply⟩ := exchange
    obtain ⟨permitted, led⟩ := granted
    have apart : call ≠ .openRun := by
      rintro rfl
      cases state with
      | off => exact on rfl
      | quiet => rcases permitted with same | same | ⟨_, same⟩ <;> cases same
      | raised => cases permitted
      | unheeded => rcases permitted with same | ⟨_, same⟩ <;> cases same
    have stands : middle ≠ .off := by
      rintro rfl
      cases state with
      | off => exact on rfl
      | quiet => simp only [failFastRules, Option.some.injEq] at led; split at led <;> cases led
      | raised =>
        cases permitted
        cases reply <;> cases led
      | unheeded => rcases permitted with rfl | ⟨_, rfl⟩ <;> cases led
    obtain ⟨later, rest⟩ := ih stands
    exact ⟨later, List.forall_mem_cons.mpr ⟨apart, rest⟩⟩

/-- A run about which anything was asked has been opened before. -/
theorem failFastRules_opened (passes : Passes (failFastRules failFast).Grants .off trace last)
    (asked : ∃ exchange ∈ trace, exchange.call.isCalm = false) :
    ∃ exchange ∈ trace, exchange.call = .openRun := by
  -- The induction is on the passage from the unopened run, whose first uncalm exchange opens it.
  generalize same : FailureState.off = state at passes
  induction passes with
  | start state => simp at asked
  | @next state middle last exchange trace granted _ ih =>
    subst same
    obtain ⟨permitted, led⟩ := granted
    rcases permitted with calm | opens
    · -- A calm question leaves the run unopened, so there are others.
      have later : ∃ exchange ∈ trace, exchange.call.isCalm = false := by
        obtain ⟨other, listed, uncalm⟩ := asked
        rcases List.mem_cons.mp listed with rfl | rest
        · exact absurd calm (by simp [uncalm])
        · exact ⟨other, rest, uncalm⟩
      have stays : FailureState.off = middle :=
        (failFastRules_after calm (.inl rfl) exchange.reply led).symm
      obtain ⟨opening, listed, opens⟩ := ih later stays
      exact ⟨opening, List.mem_cons_of_mem _ listed, opens⟩
    · exact ⟨exchange, List.mem_cons_self, opens⟩

/-- There is a failure to be dealt with only where failing fast, and where a worker failed. -/
theorem failFastRules_grounded (passes : Passes (failFastRules failFast).Grants state trace last)
    (up : ¬ last.IsCalm) :
    ¬ state.IsCalm ∨ failFast = true ∧ ∃ exchange ∈ trace, exchange.isFailure = true := by
  -- Read from its end, the passage raises the failure at the last exchange that leaves a calm
  -- state.
  induction passes with
  | start state => exact .inl up
  | @next state middle last exchange trace granted _ ih =>
    rcases ih up with before | ⟨fast, failure, listed, failed⟩
    · by_cases calm : state.IsCalm
      · refine .inr ?_
        obtain ⟨_, led⟩ := granted
        rcases calm with rfl | rfl
        · -- A run that has just been opened is calm.
          obtain ⟨call, reply⟩ := exchange
          refine absurd ?_ before
          cases call <;> cases led <;> first | exact .inl rfl | exact .inr rfl
        · simp only [failFastRules, Option.some.injEq] at led
          split at led
          · rename_i raised
            obtain ⟨failed, fast⟩ := Bool.and_eq_true_iff.mp raised
            exact ⟨fast, exchange, List.mem_cons_self, failed⟩
          · exact absurd (.inr led.symm) before
      · exact .inl calm
    · exact .inr ⟨fast, failure, List.mem_cons_of_mem _ listed, failed⟩

/-- Once there is a failure to be dealt with, nothing is done but to ask about the run and to
report, before the run is found cancelled or is cancelled. -/
theorem failFastRules_heeded (passes : Passes (failFastRules failFast).Grants state trace last)
    (up : ¬ state.IsCalm) :
    (∀ exchange ∈ trace, exchange.call = .isCancelled ∨ ∃ event, exchange.call = .log event) ∨
      ∃ exchange ∈ trace, exchange = ⟨.isCancelled, true⟩ ∨ exchange.call = .cancelRun := by
  induction passes with
  | start state => exact .inl (by simp)
  | @next state middle last exchange trace granted _ ih =>
    -- Either there is still a failure to be dealt with, or this is where it is.
    have asked : (exchange.call = .isCancelled ∨ ∃ event, exchange.call = .log event) ∧
        ¬ middle.IsCalm ∨ exchange = ⟨.isCancelled, true⟩ ∨ exchange.call = .cancelRun := by
      -- There is nothing to be dealt with in the first two states.
      obtain ⟨call, reply⟩ := exchange
      obtain ⟨permitted, led⟩ := granted
      cases state with
      | off => exact absurd (.inl rfl) up
      | quiet => exact absurd (.inr rfl) up
      -- The adaptor has asked whether the run is cancelled, and goes on to cancel it if not.
      | raised =>
        cases permitted
        cases reply with
        | true => exact .inr (.inl rfl)
        | false =>
          cases led
          exact .inl ⟨.inl rfl, by rintro (same | same) <;> cases same⟩
      -- The run is to be cancelled, and a report may come before that.
      | unheeded =>
        rcases permitted with rfl | ⟨event, rfl⟩
        · exact .inr (.inr rfl)
        · cases led
          exact .inl ⟨.inr ⟨event, rfl⟩, up⟩
    -- A question apart from these leaves the rest to the induction.
    rcases asked with ⟨apart, stays⟩ | found
    · exact (ih stays).imp (fun rest => List.forall_mem_cons.mpr ⟨apart, rest⟩)
        fun ⟨found, listed, same⟩ => ⟨found, List.mem_cons_of_mem _ listed, same⟩
    · exact .inr ⟨exchange, List.mem_cons_self, found⟩

end Traces

end BatchFlow
