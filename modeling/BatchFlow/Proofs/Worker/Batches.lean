import BatchFlow.Proofs.Worker.ProducerHandle

/-! Whatever a worker goes through, it routes every batch that its producer yields in one traversal,
before it polls again, and begins no other traversal. -/

namespace BatchFlow

open Plan (Exchange)

/-- A poll, or the beginning of a traversal. -/
def Call.feeds : Call → Bool
  | .poll .. | .openTransaction => true
  | _ => false

/-- The batch that a poll yielded, if there was anything in it. -/
def Plan.Exchange.batch? : Exchange → Option (List Item)
  | ⟨.poll .., .batch (first :: rest)⟩ => some (first :: rest)
  | _ => none

/-- The batches that were yielded, in order. -/
def yields (trace : List Exchange) : List (List Item) :=
  trace.filterMap (·.batch?)

/-- The batches of two traces come one after the other. -/
@[simp] theorem yields_append (first rest : List Exchange) :
    yields (first ++ rest) = yields first ++ yields rest :=
  List.filterMap_append

/-- Only a poll yields anything. -/
theorem batch?_eq_none {call : Call} (apart : call.feeds = false) (reply : call.Reply) :
    Exchange.batch? ⟨call, reply⟩ = none := by
  cases call <;> first | rfl | cases apart

namespace Worker

/-- What a worker goes through, and the batches that it has routed: each batch is routed as a whole,
right after the poll that yielded it, and no other traversal begins. -/
inductive Rounds (worker : Worker) : List Exchange → List (List Item) → Prop where
  | done : Rounds worker [] []
  | aside {exchange : Exchange} {trace : List Exchange} {batches : List (List Item)}
      (unyielding : exchange.batch? = none) (apart : exchange.call ≠ .openTransaction)
      (rest : Rounds worker trace batches) : Rounds worker (exchange :: trace) batches
  | round {exchange : Exchange} {items : List Item} {routing trace : List Exchange}
      {outcome : Except WorkerFailure Unit} {batches : List (List Item)}
      (yielded : exchange.batch? = some items)
      (routed : (worker.routeBatch items).Runs routing outcome)
      (rest : Rounds worker trace batches) :
    Rounds worker (exchange :: (routing ++ trace)) (items :: batches)

/-- However the plan ends, the worker has gone through rounds. -/
def InRounds {ρ : Type} (worker : Worker) (plan : Plan ρ) : Prop :=
  ∀ trace result, plan.Runs trace result → ∃ batches, worker.Rounds trace batches

/-- How far a worker has come, and what it has yet to do: all its rounds are complete, or it is in
the middle of one, and then it has to route the rest of the batch before anything else. -/
inductive Course {ρ : Type} (worker : Worker) : List Exchange → Plan ρ → Prop where
  | between {trace : List Exchange} {batches : List (List Item)} (rest : Plan ρ)
      (rounds : worker.Rounds trace batches) : Course worker trace rest
  | amid {earlier : List Exchange} {batches : List (List Item)} {exchange : Exchange}
      {items : List Item} {routing : List Exchange} {left : Plan (Except WorkerFailure Unit)}
      (further : Except WorkerFailure Unit → Plan ρ) (rounds : worker.Rounds earlier batches)
      (yielded : exchange.batch? = some items)
      (routed : (worker.routeBatch items).Reaches routing left)
      (unfinished : ∀ outcome, left ≠ .done outcome) :
    Course worker (earlier ++ exchange :: routing) (left.bind further)

/-- However far the plan is followed, the worker goes from round to round. -/
def InCourse {ρ : Type} (worker : Worker) (plan : Plan ρ) : Prop :=
  ∀ trace rest, plan.Reaches trace rest → worker.Course trace rest

variable {worker : Worker}

/-- Rounds may follow upon rounds. -/
theorem Rounds.append {first rest : List Exchange} {batches more : List (List Item)}
    (rounds : worker.Rounds first batches) (further : worker.Rounds rest more) :
    worker.Rounds (first ++ rest) (batches ++ more) := by
  -- The induction is on the first part; the second one follows where it is done.
  induction rounds with
  | done => exact further
  | aside unyielding apart _ ih => exact .aside unyielding apart ih
  | round yielded routed _ ih =>
    rw [List.cons_append, List.append_assoc]
    exact .round yielded routed ih

/-- Routing a batch polls nobody. -/
theorem yields_routeBatch {items : List Item} {routing : List Exchange}
    {outcome : Except WorkerFailure Unit}
    (routed : (worker.routeBatch items).Runs routing outcome) : yields routing = [] := by
  -- A poll is tied to the producer, and nothing that a routing asks for is.
  refine List.filterMap_eq_nil_iff.mpr fun exchange asked => ?_
  have untied := ((worker.routeBatch_confined items).runs routed).1 exchange asked
  obtain ⟨call, reply⟩ := exchange
  cases call with
  | poll => cases untied
  | _ => rfl

/-- The batches that were routed are those that were yielded. -/
theorem Rounds.yields_eq {trace : List Exchange} {batches : List (List Item)}
    (rounds : worker.Rounds trace batches) : yields trace = batches := by
  induction rounds with
  | done => rfl
  | aside unyielding _ _ ih => simpa [yields, unyielding] using ih
  | @round exchange items routing trace _ _ yielded routed _ ih =>
    -- The routing in between adds nothing.
    have whole : yields (exchange :: (routing ++ trace)) =
        items :: (yields routing ++ yields trace) := by
      simp [yields, yielded]
    rw [whole, yields_routeBatch routed, List.nil_append, ih]

namespace Course

variable {α β ρ : Type} {trace : List Exchange}

/-- A course goes on from rounds that were complete before. -/
theorem after {rest : Plan ρ} {before : List Exchange} {batches : List (List Item)}
    (course : worker.Course trace rest) (rounds : worker.Rounds before batches) :
    worker.Course (before ++ trace) rest := by
  -- Whether a round is under way depends on the later part alone.
  cases course with
  | between rest more => exact .between rest (rounds.append more)
  | amid further more yielded routed unfinished =>
    rw [← List.append_assoc]
    exact .amid further (rounds.append more) yielded routed unfinished

/-- A course is the same whatever is to be done after it. -/
theorem bind {rest : Plan α} (course : worker.Course trace rest) (next : α → Plan β) :
    worker.Course trace (rest.bind next) := by
  -- What comes after is only put behind what is left.
  cases course with
  | between rest rounds => exact .between _ rounds
  | amid further rounds yielded routed unfinished =>
    rw [Plan.bind_assoc]
    exact .amid _ rounds yielded routed unfinished

/-- When there is nothing left to do, all rounds are complete. -/
theorem rounds {result : ρ} (course : worker.Course trace (.done result)) :
    ∃ batches, worker.Rounds trace batches := by
  -- A plan that is done is not in the middle of a batch.
  generalize same : Plan.done result = rest at course
  cases course with
  | between _ rounds => exact ⟨_, rounds⟩
  | amid _ _ _ _ unfinished => exact absurd same.symm (Plan.bind_ne_done unfinished result)

end Course

namespace InCourse

variable {α β ρ : Type}

/-- A plan that is done asks nothing. -/
theorem done (result : ρ) : worker.InCourse (.done result) := by
  intro trace _ reaches
  obtain ⟨rfl, _⟩ := Plan.reaches_done_iff.mp reaches
  exact .between _ .done

/-- A plan that was cut off asks nothing. -/
theorem starved : worker.InCourse (.starved : Plan ρ) := by
  intro trace _ reaches
  cases reaches
  exact .between _ .done

/-- A question that is neither a poll nor the beginning of a traversal is an aside. -/
theorem ask {call : Call} {next : call.Reply → Plan ρ} (apart : call.feeds = false)
    (rest : ∀ reply, worker.InCourse (next reply)) : worker.InCourse (.ask call next) := by
  intro trace left reaches
  -- Before the answer the course has not begun, and after it the rest of the plan has one.
  rcases Plan.reaches_ask_iff.mp reaches with ⟨rfl, rfl⟩ | ⟨reply, trace, rfl, more⟩
  · exact .between _ .done
  · refine (rest reply trace left more).after (.aside (batch?_eq_none apart reply) ?_ .done)
    rintro rfl
    cases apart

/-- One plan after another is in its course if both of them are. -/
theorem bind {plan : Plan α} {next : α → Plan β} (first : worker.InCourse plan)
    (second : ∀ value, worker.InCourse (next value)) : worker.InCourse (plan.bind next) := by
  intro trace rest reaches
  rcases Plan.reaches_bind_cases reaches with ⟨left, within, _, rfl⟩ |
    ⟨value, before, after, rfl, ended, beyond⟩
  · exact (first trace left within).bind next
  · -- The first plan has come to its end, and with it all its rounds.
    obtain ⟨batches, rounds⟩ := (first before _ ended.reaches).rounds
    exact (second value after rest beyond).after rounds

/-- A poll is passed over without a batch, and begins a round with one. -/
theorem poll {key : Nat} {timeout : Duration} {next : Polled → Plan ρ}
    (passed : ∀ polled, Exchange.batch? ⟨.poll key timeout, polled⟩ = none →
      worker.InCourse (next polled))
    (routed : ∀ first rest, ∃ further, next (.batch (first :: rest)) =
      (worker.routeBatch (first :: rest)).bind further ∧
        ∀ outcome, worker.InCourse (further outcome)) :
    worker.InCourse (.ask (.poll key timeout) next) := by
  intro trace left reaches
  rcases Plan.reaches_ask_iff.mp reaches with ⟨rfl, rfl⟩ | ⟨polled, trace, rfl, more⟩
  · exact .between _ .done
  · cases yielded : Exchange.batch? ⟨.poll key timeout, polled⟩ with
    | none => exact (passed polled yielded trace left more).after (.aside yielded (by simp) .done)
    | some items =>
      -- Only a batch that is not empty counts as one.
      obtain ⟨first, rest, rfl, rfl⟩ : ∃ first rest, polled = .batch (first :: rest) ∧
          items = first :: rest := by
        unfold Exchange.batch? at yielded
        split at yielded
        · rename_i key timeout first rest same
          cases same
          exact ⟨first, rest, rfl, (Option.some.inj yielded).symm⟩
        · cases yielded
      -- The batch is routed to the end before anything else is asked.
      obtain ⟨further, same, goes⟩ := routed first rest
      rw [same] at more
      rcases Plan.reaches_bind_cases more with ⟨under, within, unfinished, rfl⟩ |
        ⟨outcome, routing, after, rfl, ended, beyond⟩
      · exact .amid further .done yielded within unfinished
      · have whole := Rounds.round yielded ended .done
        rw [List.append_nil] at whole
        exact (goes outcome after left beyond).after whole

/-- What ends in its course has gone through rounds. -/
theorem inRounds {plan : Plan ρ} (course : worker.InCourse plan) : worker.InRounds plan :=
  fun trace _ runs => (course trace _ runs.reaches).rounds

end InCourse

/-- Starting a producer is an aside. -/
theorem start_inCourse (source : Source) : worker.InCourse source.start := by
  refine .ask rfl fun moved => ?_
  cases moved with
  | false => exact .done _
  | true =>
    refine .ask rfl fun connected => ?_
    cases connected with
    | error cause => exact .ask rfl fun _ => .done _
    | ok _ => exact .done _

/-- Stopping a producer is an aside. -/
theorem stop_inCourse (source : Source) : worker.InCourse source.stop := by
  refine .ask rfl fun moved => ?_
  cases moved with
  | false => exact .done _
  | true =>
    refine .ask rfl fun disconnected => ?_
    cases disconnected with
    | error cause => exact .ask rfl fun _ => .ask rfl fun _ => .done _
    | ok _ => exact .ask rfl fun _ => .done _

/-- Each poll is an aside, or begins a round. -/
theorem pollLoop_inCourse (rounds : Nat) : worker.InCourse (worker.pollLoop rounds) := by
  induction rounds with
  | zero => exact .starved
  | succ rounds ih =>
    refine .ask rfl fun cancelled => ?_
    cases cancelled with
    | true => exact .done _
    | false =>
      refine .ask rfl fun exhausted => ?_
      cases exhausted with
      | true => exact .done _
      | false =>
        refine .poll (fun polled unyielding => ?_) fun first rest => ⟨_, rfl, fun outcome => ?_⟩
        · cases polled with
          | cancelled => exact .done _
          | nothing => exact ih
          | batch items =>
            cases items with
            | nil => exact ih
            | cons first rest => cases unyielding
          | failed cause =>
            -- Only a fatal failure ends the polling.
            dsimp only [Plan.bind]
            split
            · exact .done _
            · exact .ask rfl fun _ => ih
        · -- After a batch that was routed, the loop begins anew.
          cases outcome with
          | error failure => exact .done _
          | ok _ => exact ih

/-- What is done before a restart is an aside. -/
theorem recover_inCourse (attempt : Nat) (failure : WorkerFailure) :
    worker.InCourse (worker.recover attempt failure) := by
  refine .ask rfl fun _ => .ask rfl fun context => ?_
  refine (stop_inCourse worker.source).bind fun _ => .ask rfl fun cut => ?_
  cases cut with
  | true => exact .done _
  -- A producer that has no context to be restarted from is given up.
  | false =>
    cases context with
    | none => exact .done _
    | some context => exact .ask rfl fun _ => .done _

/-- A session is in its course if what follows upon its failure is. -/
theorem session_inCourse {failing : WorkerFailure → Plan WorkerExit}
    (fails : ∀ failure, worker.InCourse (failing failure)) :
    worker.InCourse (worker.session failing) := by
  refine (start_inCourse worker.source).bind fun started => ?_
  -- Without a connection nothing is polled.
  cases started with
  | error cause => exact .done _
  | ok _ =>
    refine (pollLoop_inCourse _).bind fun ended => ?_
    cases ended with
    | ok _ => exact (stop_inCourse worker.source).bind fun _ => .done _
    | error failure => exact fails failure

/-- With every restart there are more rounds. -/
theorem serve_inCourse (left : Nat) : worker.InCourse (worker.serve left) := by
  -- What is done about a failure of the polling depends on the restarts that are left.
  induction left with
  | zero =>
    unfold serve
    exact session_inCourse fun _ => (stop_inCourse worker.source).bind fun _ => .done _
  | succ left ih =>
    unfold serve
    refine session_inCourse fun failure => .ask rfl fun cancelled => ?_
    cases cancelled with
    | true => exact (stop_inCourse worker.source).bind fun _ => .done _
    | false =>
      refine (recover_inCourse _ _).bind fun goesOn => ?_
      cases goesOn with
      | true => exact ih
      | false => exact .done _

/-- A worker goes from round to round, from its beginning to its end. -/
theorem run_inCourse (worker : Worker) : worker.InCourse worker.run := by
  refine .ask rfl fun _ => (serve_inCourse _).bind fun exit => ?_
  -- Whether the worker failed is reported, and nothing else.
  cases exit.failure with
  | none => exact .ask rfl fun _ => .done _
  | some failure => exact .ask rfl fun _ => .ask rfl fun _ => .done _

/-- A worker that has come to its end has gone through rounds. -/
theorem run_inRounds (worker : Worker) : worker.InRounds worker.run :=
  worker.run_inCourse.inRounds

end Worker

end BatchFlow
