import BatchFlow.Work

/-! What a run of a plan looks like, from the way the plan was put together. -/

namespace BatchFlow

namespace Plan

variable {α β ρ : Type}

/-- A finished plan asks nothing more. -/
@[simp] theorem runs_done_iff {value result : ρ} {trace : List Exchange} :
    (done value).Runs trace result ↔ trace = [] ∧ result = value := by
  constructor
  · intro runs
    cases runs
    exact ⟨rfl, rfl⟩
  · rintro ⟨rfl, rfl⟩
    exact .done _

/-- A plan that asks goes on from whatever it is answered. -/
@[simp] theorem runs_ask_iff {call : Call} {next : call.Reply → Plan ρ} {trace : List Exchange}
    {result : ρ} :
    (ask call next).Runs trace result ↔
      ∃ reply rest, trace = ⟨call, reply⟩ :: rest ∧ (next reply).Runs rest result := by
  constructor
  · intro runs
    cases runs with
    | ask _ _ reply rest _ more => exact ⟨reply, rest, rfl, more⟩
  · rintro ⟨reply, rest, rfl, more⟩
    exact .ask call next reply rest result more

/-- A plan whose allowance is used up never ends. -/
@[simp] theorem not_runs_starved {trace : List Exchange} {result : ρ} :
    ¬ (starved : Plan ρ).Runs trace result := by
  intro runs
  cases runs

/-- A plan followed by another one runs first through the one and then through the other. -/
theorem runs_bind_iff {plan : Plan α} {next : α → Plan β} {trace : List Exchange} {result : β} :
    (plan.bind next).Runs trace result ↔
      ∃ value first rest, trace = first ++ rest ∧ plan.Runs first value ∧
        (next value).Runs rest result := by
  -- The trace is split where the first plan ends, so the induction follows that plan.
  induction plan generalizing trace with
  | done value =>
    constructor
    · intro runs
      -- The first plan asks nothing, so the whole trace belongs to the second one.
      exact ⟨value, [], trace, rfl, .done value, runs⟩
    · rintro ⟨_, first, rest, rfl, ended, runs⟩
      obtain ⟨rfl, rfl⟩ := runs_done_iff.mp ended
      exact runs
  | ask call rest ih =>
    constructor
    · intro runs
      -- The first exchange belongs to the first plan, and the rest of the trace is split as before.
      obtain ⟨reply, answered, rfl, more⟩ := runs_ask_iff.mp runs
      obtain ⟨value, first, last, rfl, ended, follows⟩ := (ih reply).mp more
      exact ⟨value, ⟨call, reply⟩ :: first, last, rfl, .ask _ _ _ _ _ ended, follows⟩
    · rintro ⟨value, first, last, rfl, ended, follows⟩
      obtain ⟨reply, answered, rfl, more⟩ := runs_ask_iff.mp ended
      exact .ask _ _ _ _ _ ((ih reply).mpr ⟨value, answered, last, rfl, more, follows⟩)
  | starved =>
    constructor
    · -- Neither side can be, since a starved plan has no run.
      intro runs
      exact absurd runs not_runs_starved
    · rintro ⟨_, _, _, _, ended, _⟩
      exact absurd ended not_runs_starved

/-- How surroundings answer each question, given the exchanges so far. -/
abbrev Surroundings : Type := List Exchange → (call : Call) → call.Reply

/-- The answers of surroundings in which nothing fails and nothing happens by itself. -/
def uneventful : (call : Call) → call.Reply
  | .log _ | .shareMetadata .. | .resetStep .. | .shutdownProducer _ | .setContext .. | .openRun
  | .cancelRun | .spawnWorker _ => ()
  | .clock => ⟨0⟩
  | .openTransaction | .newMetadata => 0
  | .advance .. | .isExhausted _ => true
  | .isCancelled | .pause _ => false
  | .beginWork _ | .commitWork _ | .rollbackWork .. | .connectNode _ | .disconnectNode _
  | .connectProducer _ | .disconnectProducer _ | .onTerminal .. => .ok ()
  | .nodeResource _ | .producerResource _ => none
  | .applyStep _ item | .enrichItem _ item _ => .ok [item]
  | .deliver .. => .ok none
  | .parametersFor .. | .contextOf _ => none
  | .readRecords .. => .records []
  | .poll .. => .nothing
  | .nextExit => ("", 0)
  | .collectExit _ => none

/-- Carries a plan out in given surroundings: the exchanges that it adds, and its result. -/
def carryOut (surroundings : Surroundings) : List Exchange → Plan ρ → Option (List Exchange × ρ)
  | _, done result => some ([], result)
  | past, ask call next =>
    let exchange : Exchange := ⟨call, surroundings past call⟩
    match carryOut surroundings (past ++ [exchange]) (next exchange.reply) with
    | some (rest, result) => some (exchange :: rest, result)
    | none => none
  | _, starved => none

/-- What is carried out is a run. -/
theorem runs_of_carryOut {surroundings : Surroundings} {past trace : List Exchange}
    {plan : Plan ρ} {result : ρ} (ended : carryOut surroundings past plan = some (trace, result)) :
    plan.Runs trace result := by
  -- The exchanges so far matter to the answers only, so they are generalised.
  induction plan generalizing past trace with
  | done value =>
    cases ended
    exact .done _
  | ask call next ih =>
    simp only [carryOut] at ended
    split at ended
    · rename_i rest value further
      cases ended
      -- The answer that the surroundings gave is one that a run may have.
      exact .ask _ _ _ _ _ (ih _ further)
    · -- Without a result further on there is none here either.
      cases ended
  | starved => cases ended

/-- Surroundings that pay no heed to the past give the same answer each time they are asked. -/
theorem replies_of_carryOut {answers : (call : Call) → call.Reply} {past trace : List Exchange}
    {plan : Plan ρ} {result : ρ}
    (ended : carryOut (fun _ => answers) past plan = some (trace, result)) :
    ∀ exchange ∈ trace, exchange.reply = answers exchange.call := by
  induction plan generalizing past trace with
  | done value =>
    cases ended
    simp
  | ask call next ih =>
    -- The first answer is the one that is always given, and so are the others.
    simp only [carryOut] at ended
    split at ended
    · rename_i rest value further
      cases ended
      exact List.forall_mem_cons.mpr ⟨rfl, ih _ further⟩
    · cases ended
  | starved => cases ended

/-- A plan that comes to an end in some surroundings, with something that can be checked there, has
a run of which it holds. -/
theorem exists_run (surroundings : Surroundings) (plan : Plan ρ)
    (check : List Exchange × ρ → Bool)
    (checked : (carryOut surroundings [] plan).any check = true) :
    ∃ trace result, plan.Runs trace result ∧ check (trace, result) = true := by
  obtain ⟨⟨trace, result⟩, ended, holds⟩ := (Option.any_eq_true _ _).mp checked
  exact ⟨trace, result, runs_of_carryOut ended, holds⟩

/-- A run in surroundings that always give the same answers, with something that holds of it. -/
theorem exists_run_of_answers (answers : (call : Call) → call.Reply) (plan : Plan ρ)
    (check : ρ → Bool)
    (checked : (carryOut (fun _ => answers) [] plan).any (fun ended => check ended.2) = true) :
    ∃ trace result, plan.Runs trace result ∧
      (∀ exchange ∈ trace, exchange.reply = answers exchange.call) ∧ check result = true := by
  obtain ⟨⟨trace, result⟩, ended, holds⟩ := (Option.any_eq_true _ _).mp checked
  exact ⟨trace, result, runs_of_carryOut ended, replies_of_carryOut ended, holds⟩

end Plan

namespace Work

variable {σ τ α β : Type}

/-- A result that is there already is all there is to it. -/
theorem runs_pure_iff {value : α} {state after : σ} {trace : List Plan.Exchange}
    {result : Except RouteFailure α} :
    ((pure value : Work σ α) state).Runs trace (after, result) ↔
      trace = [] ∧ after = state ∧ result = .ok value := by
  show (Plan.done (state, Except.ok value)).Runs trace (after, result) ↔ _
  rw [Plan.runs_done_iff, Prod.mk.injEq]

/-- Work that begins with a question goes on from the answer. -/
theorem runs_call_bind_iff {question : Call} {next : question.Reply → Work σ β} {state after : σ}
    {trace : List Plan.Exchange} {result : Except RouteFailure β} :
    ((call question >>= next) state).Runs trace (after, result) ↔
      ∃ reply rest, trace = ⟨question, reply⟩ :: rest ∧
        (next reply state).Runs rest (after, result) :=
  Plan.runs_ask_iff

/-- What a sequence comes to is what its second part comes to, or else the failure of its first
part. -/
theorem runs_bind_cases {work : Work σ α} {next : α → Work σ β} {state after : σ}
    {trace : List Plan.Exchange} {result : Except RouteFailure β}
    (runs : ((work >>= next) state).Runs trace (after, result)) :
    (∃ failure, (work state).Runs trace (after, .error failure) ∧ result = .error failure) ∨
      ∃ value middle first rest, trace = first ++ rest ∧
        (work state).Runs first (middle, .ok value) ∧
        (next value middle).Runs rest (after, result) := by
  -- The first part ends either with a failure, which is passed on, or with a value.
  obtain ⟨⟨middle, ended⟩, first, rest, rfl, ran, more⟩ := Plan.runs_bind_iff.mp runs
  cases ended with
  | error failure =>
    obtain ⟨rfl, same⟩ := Plan.runs_done_iff.mp more
    cases same
    exact .inl ⟨failure, by simpa using ran, rfl⟩
  | ok value => exact .inr ⟨value, middle, first, rest, rfl, ran, more⟩

/-- Work that went well did so in each of its two parts. -/
theorem runs_bind_ok_iff {work : Work σ α} {next : α → Work σ β} {state after : σ}
    {trace : List Plan.Exchange} {result : β} :
    ((work >>= next) state).Runs trace (after, .ok result) ↔
      ∃ value middle first rest, trace = first ++ rest ∧
        (work state).Runs first (middle, .ok value) ∧
        (next value middle).Runs rest (after, .ok result) := by
  show ((work state).bind (andThen next)).Runs trace (after, .ok result) ↔ _
  rw [Plan.runs_bind_iff]
  constructor
  · rintro ⟨⟨middle, ended⟩, first, rest, rfl, runs, more⟩
    cases ended with
    -- The second part cannot have turned a failure into a result.
    | error failure => simp [andThen] at more
    | ok value => exact ⟨value, middle, first, rest, rfl, runs, more⟩
  · rintro ⟨value, middle, first, rest, rfl, runs, more⟩
    exact ⟨(middle, .ok value), first, rest, rfl, runs, more⟩

/-- Work that was abandoned was abandoned in its first part, or in its second part after the first
one had gone well. -/
theorem runs_bind_error_iff {work : Work σ α} {next : α → Work σ β} {state after : σ}
    {trace : List Plan.Exchange} {failure : RouteFailure} :
    ((work >>= next) state).Runs trace (after, .error failure) ↔
      (work state).Runs trace (after, .error failure) ∨
      ∃ value middle first rest, trace = first ++ rest ∧
        (work state).Runs first (middle, .ok value) ∧
        (next value middle).Runs rest (after, .error failure) := by
  show ((work state).bind (andThen next)).Runs trace (after, .error failure) ↔ _
  rw [Plan.runs_bind_iff]
  constructor
  · rintro ⟨⟨middle, ended⟩, first, rest, rfl, runs, more⟩
    cases ended with
    -- The failure of the first part ends the work where it is.
    | error raised =>
      obtain ⟨rfl, same⟩ := Plan.runs_done_iff.mp more
      cases same
      exact .inl (by simpa using runs)
    | ok value => exact .inr ⟨value, middle, first, rest, rfl, runs, more⟩
  · rintro (runs | ⟨value, middle, first, rest, rfl, runs, more⟩)
    · exact ⟨(after, .error failure), trace, [], by simp, runs, .done _⟩
    · exact ⟨(middle, .ok value), first, rest, rfl, runs, more⟩

/-- Work on a part of the state runs on that part, and leaves the rest of it alone. -/
theorem runs_onPart_iff {get : τ → σ} {set : σ → τ → τ} {work : Work σ α} {state after : τ}
    {trace : List Plan.Exchange} {result : Except RouteFailure α} :
    (work.onPart get set state).Runs trace (after, result) ↔
      ∃ part, (work (get state)).Runs trace (part, result) ∧ after = set part state := by
  -- The part is taken out, worked on and put back, which asks nothing on either side.
  unfold onPart
  rw [Plan.runs_bind_iff]
  constructor
  · rintro ⟨⟨part, outcome⟩, first, rest, rfl, runs, ended⟩
    obtain ⟨rfl, same⟩ := Plan.runs_done_iff.mp ended
    cases same
    exact ⟨part, by simpa using runs, rfl⟩
  · rintro ⟨part, runs, rfl⟩
    exact ⟨(part, result), trace, [], by simp, runs, .done _⟩

/-- A step that may be faulty runs as it does by itself, its fault being a failure of the work. -/
theorem runs_ofFaulty_iff {step : σ → Plan (σ × Except TransactionFault α)} {state after : σ}
    {trace : List Plan.Exchange} {result : Except RouteFailure α} :
    (ofFaulty step state).Runs trace (after, result) ↔
      ∃ outcome, (step state).Runs trace (after, outcome) ∧
        result = outcome.mapError RouteFailure.transaction := by
  unfold ofFaulty
  rw [Plan.runs_bind_iff]
  constructor
  · -- Nothing is asked after the step, so that its trace is the whole one.
    rintro ⟨⟨left, outcome⟩, first, rest, rfl, runs, ended⟩
    obtain ⟨rfl, same⟩ := Plan.runs_done_iff.mp ended
    cases same
    exact ⟨outcome, by simpa using runs, rfl⟩
  · rintro ⟨outcome, runs, rfl⟩
    exact ⟨(after, outcome), trace, [], by simp, runs, .done _⟩

end Work

end BatchFlow
