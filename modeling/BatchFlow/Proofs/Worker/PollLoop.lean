import BatchFlow.Proofs.Worker.RoutedBatch

/-! The polling of a producer, one poll after the other. Each cycle begins with a look at the run
and one at the producer, and goes on with the response to the poll; a batch is answered with the
message that is made for it, its traversal, and what the producer is shown of that. -/

namespace BatchFlow

open Plan (Exchange)

/-- A question about what goes into the message for a batch. -/
def Call.isNaming : Call → Bool
  | .newMetadata | .contextOf _ | .producerResource _ => true
  | _ => false

namespace Worker

variable {worker : Worker} {items : List Item} {message : Message}

/-- What is asked before a batch is routed, and the message that is made of it: its context is the
one that the producer reports then, and its origin the resource of a producer that takes part in
transactions. -/
inductive Names (worker : Worker) (items : List Item) : List Exchange → Message → Prop where
  | alone {metadata : Nat} {context : Option Item}
      (apart : worker.source.transactional = false) :
    Names worker items
      [⟨.newMetadata, metadata⟩, ⟨.contextOf worker.source.key, context⟩]
      { sender := worker.source.id, data := items, context, worker := "worker-" ++ worker.source.id,
        transaction := none, origin := none, metadata }
  | jointly {metadata : Nat} {context : Option Item} {origin : Option Resource}
      (transactional : worker.source.transactional = true) :
    Names worker items
      [⟨.newMetadata, metadata⟩, ⟨.contextOf worker.source.key, context⟩,
        ⟨.producerResource worker.source.key, origin⟩]
      { sender := worker.source.id, data := items, context, worker := "worker-" ++ worker.source.id,
        transaction := none, origin, metadata }

/-- Nothing else is asked for a message. -/
theorem Names.asks {named : List Exchange} (naming : worker.Names items named message) :
    ∀ exchange ∈ named, exchange.call.isNaming = true := by
  cases naming <;> simp [Call.isNaming]

/-- What is asked for a message, and the message that is made, are just the ones that are named. -/
theorem messageFor_runs_iff {named : List Exchange} :
    (worker.messageFor items).Runs named message ↔ worker.Names items named message := by
  -- Whether there is a third question depends on the kind of the producer.
  cases transactional : worker.source.transactional with
  -- Alone there are two questions.
  | false =>
    simp only [messageFor, transactional, Bool.false_eq_true, if_false, Plan.call, Plan.ask_bind,
      Plan.done_bind, Plan.pure_eq_done, Plan.runs_ask_iff, Plan.runs_done_iff]
    constructor
    · rintro ⟨metadata, _, rfl, context, _, rfl, rfl, rfl⟩
      exact .alone transactional
    · rintro (⟨_⟩ | ⟨joint⟩)
      · exact ⟨_, _, rfl, _, _, rfl, rfl, rfl⟩
      · simp [transactional] at joint
  -- In a transaction there is also one for its origin.
  | true =>
    simp only [messageFor, transactional, if_true, Plan.call, Plan.ask_bind,
      Plan.done_bind, Plan.pure_eq_done, Plan.runs_ask_iff, Plan.runs_done_iff]
    constructor
    · rintro ⟨metadata, _, rfl, context, _, rfl, origin, _, rfl, rfl, rfl⟩
      exact .jointly transactional
    · rintro (⟨alone⟩ | ⟨_⟩)
      · simp [transactional] at alone
      · exact ⟨_, _, rfl, _, _, rfl, _, _, rfl, rfl, rfl⟩

/-- As long as the message is not made, something is left to be asked for it. -/
theorem messageFor_reaches {asked : List Exchange} {left : Plan Message}
    (reaches : (worker.messageFor items).Reaches asked left)
    (unfinished : ∀ message, left ≠ .done message) :
    ∃ unasked message, unasked ≠ [] ∧ worker.Names items (asked ++ unasked) message := by
  obtain ⟨unasked, message, runs⟩ := ((worker.messageFor_ends items).reaches reaches).exists_run
  refine ⟨unasked, message, ?_, messageFor_runs_iff.mp (reaches.runs runs)⟩
  -- With nothing left to ask, the message would have been made.
  rintro rfl
  cases runs
  exact unfinished message rfl

/-- How the handling of a batch has ended: the message was routed, and the producer was shown what
the traversal left behind, if it went well. -/
inductive Handled (worker : Worker) (items : List Item) :
    List Exchange → Except WorkerFailure Unit → Prop where
  | shown {named walk : List Exchange} {message : Message} {results : Terminal}
      (naming : worker.Names items named message)
      (routed : (worker.router.route worker.allowance.depth message).Runs walk (.ok results)) :
    Handled worker items (named ++ (walk ++ [⟨.onTerminal worker.source.key results, .ok ()⟩]))
      (.ok ())
  | refused {named walk : List Exchange} {message : Message} {results : Terminal}
      {cause : Condition} (naming : worker.Names items named message)
      (routed : (worker.router.route worker.allowance.depth message).Runs walk (.ok results)) :
    Handled worker items
      (named ++ (walk ++ [⟨.onTerminal worker.source.key results, .error cause⟩]))
      (.error (.terminal worker.source.id cause))
  | failed {named walk : List Exchange} {message : Message} {failure : RouteFailure}
      (naming : worker.Names items named message)
      (routed : (worker.router.route worker.allowance.depth message).Runs walk (.error failure)) :
    Handled worker items (named ++ walk) (.error (.routing failure))

/-- How far the handling of a batch has come that is not over: the message is being made or routed,
or the producer is about to be shown what the traversal left behind. -/
inductive Handling (worker : Worker) (items : List Item) :
    List Exchange → Plan (Except WorkerFailure Unit) → Prop where
  | naming {asked unasked : List Exchange} {message : Message}
      {rest : Plan (Except WorkerFailure Unit)}
      (naming : worker.Names items (asked ++ unasked) message) (incomplete : unasked ≠ [])
      (unfinished : ∀ outcome, rest ≠ .done outcome) :
    Handling worker items asked rest
  | routing {named walk : List Exchange} {message : Message}
      {left : Plan (Except RouteFailure Terminal)} {rest : Plan (Except WorkerFailure Unit)}
      (naming : worker.Names items named message)
      (reached : (worker.router.route worker.allowance.depth message).Reaches walk left)
      (unrouted : ∀ result, left ≠ .done result) (unfinished : ∀ outcome, rest ≠ .done outcome) :
    Handling worker items (named ++ walk) rest
  | showing {named walk : List Exchange} {message : Message} {results : Terminal}
      {next : Except Condition Unit → Plan (Except WorkerFailure Unit)}
      (naming : worker.Names items named message)
      (routed : (worker.router.route worker.allowance.depth message).Runs walk (.ok results)) :
    Handling worker items (named ++ walk) (.ask (.onTerminal worker.source.key results) next)

/-- The handling of a batch ends in exactly these ways. -/
theorem routeBatch_runs_iff {handling : List Exchange} {outcome : Except WorkerFailure Unit} :
    (worker.routeBatch items).Runs handling outcome ↔ worker.Handled items handling outcome := by
  constructor
  · intro runs
    -- First the message is made, then it is routed, and then the producer is shown the results.
    obtain ⟨message, named, _, rfl, names, more⟩ := Plan.runs_bind_iff.mp runs
    have naming := messageFor_runs_iff.mp names
    obtain ⟨result, walk, _, rfl, routed, shows⟩ := Plan.runs_bind_iff.mp more
    cases result with
    | error failure =>
      -- Nothing is shown of a traversal that failed.
      obtain ⟨rfl, rfl⟩ := Plan.runs_done_iff.mp shows
      rw [List.append_nil]
      exact .failed naming routed
    | ok results =>
      obtain ⟨reply, _, rfl, last⟩ := Plan.runs_call_bind_iff.mp shows
      cases reply with
      | error cause =>
        obtain ⟨rfl, rfl⟩ := Plan.runs_done_iff.mp last
        exact .refused naming routed
      | ok _ =>
        obtain ⟨rfl, rfl⟩ := Plan.runs_done_iff.mp last
        exact .shown naming routed
  · intro handled
    -- Each way to end is put together of the same parts again.
    cases handled with
    | shown naming routed =>
      refine Plan.runs_bind_iff.mpr ⟨_, _, _, rfl, messageFor_runs_iff.mpr naming, ?_⟩
      exact Plan.runs_bind_iff.mpr ⟨_, _, _, rfl, routed, .ask _ _ _ _ _ (.done _)⟩
    | refused naming routed =>
      refine Plan.runs_bind_iff.mpr ⟨_, _, _, rfl, messageFor_runs_iff.mpr naming, ?_⟩
      exact Plan.runs_bind_iff.mpr ⟨_, _, _, rfl, routed, .ask _ _ _ _ _ (.done _)⟩
    | failed naming routed =>
      refine Plan.runs_bind_iff.mpr ⟨_, _, _, rfl, messageFor_runs_iff.mpr naming, ?_⟩
      exact Plan.runs_bind_iff.mpr ⟨_, _, [], by simp, routed, .done _⟩

/-- A batch is being handled until it has been handled, and only then comes anything else. -/
theorem routeBatch_bind_reaches {trace : List Exchange} {rest : Plan (Except WorkerFailure Unit)}
    {next : Except WorkerFailure Unit → Plan (Except WorkerFailure Unit)}
    (reaches : ((worker.routeBatch items).bind next).Reaches trace rest) :
    worker.Handling items trace rest ∨
      ∃ outcome handled later, trace = handled ++ later ∧ worker.Handled items handled outcome ∧
        (next outcome).Reaches later rest := by
  -- Either the handling is cut off somewhere within, or it is over and something comes after it.
  rcases Plan.reaches_bind_cases reaches with ⟨left, within, unhandled, rfl⟩ |
    ⟨outcome, handled, later, rfl, runs, beyond⟩
  · left
    have unfinished : ∀ outcome, left.bind next ≠ .done outcome := Plan.bind_ne_done unhandled
    -- It is cut off within its first part, within the walk, or where the results are to be shown.
    rcases Plan.reaches_bind_cases within with ⟨_, names, unnamed, rfl⟩ |
      ⟨message, named, walk, rfl, names, more⟩
    · obtain ⟨unasked, message, incomplete, naming⟩ := messageFor_reaches names unnamed
      exact .naming naming incomplete unfinished
    · have naming := messageFor_runs_iff.mp names
      rcases Plan.reaches_bind_cases more with ⟨_, reached, unrouted, rfl⟩ |
        ⟨result, walk, shows, rfl, routed, last⟩
      · exact .routing naming reached unrouted unfinished
      · cases result with
        | error failure =>
          obtain ⟨_, rfl⟩ := Plan.reaches_done_iff.mp last
          exact absurd rfl (unhandled _)
        | ok results =>
          rcases Plan.reaches_ask_iff.mp last with ⟨rfl, rfl⟩ | ⟨reply, _, rfl, ended⟩
          · rw [List.append_nil]
            exact .showing naming routed
          · -- Whatever the producer makes of the results, that was the last question.
            cases reply <;>
            · obtain ⟨_, rfl⟩ := Plan.reaches_done_iff.mp ended
              exact absurd rfl (unhandled _)
  · exact .inr ⟨outcome, handled, later, rfl, routeBatch_runs_iff.mp runs, beyond⟩

/-- How a worker has responded to what a poll came to: what it asked on account of it, and the
result of the polling if this was the last poll. -/
inductive Responds (worker : Worker) :
    Polled → List Exchange → Option (Except WorkerFailure Unit) → Prop where
  | cancelled : Responds worker .cancelled [] (some (.ok ()))
  | nothing : Responds worker .nothing [] none
  | empty : Responds worker (.batch []) [] none
  | routed {items : List Item} {during : List Exchange} (occupied : items ≠ [])
      (handled : worker.Handled items during (.ok ())) :
    Responds worker (.batch items) during none
  | stopped {items : List Item} {during : List Exchange} {failure : WorkerFailure}
      (occupied : items ≠ []) (handled : worker.Handled items during (.error failure)) :
    Responds worker (.batch items) during (some (.error failure))
  | reported {cause : Condition} (passing : cause.fatal = false) :
    Responds worker (.failed cause) [⟨.log (.pollFailed worker.source.id cause.text), ()⟩] none
  | fatal {cause : Condition} (fatal : cause.fatal = true) :
    Responds worker (.failed cause) [] (some (.error (.poll worker.source.id cause)))

/-- How far a worker has come that has not yet responded in full. -/
inductive Responding (worker : Worker) :
    Polled → List Exchange → Plan (Except WorkerFailure Unit) → Prop where
  | handling {items : List Item} {during : List Exchange}
      {rest : Plan (Except WorkerFailure Unit)} (occupied : items ≠ [])
      (handling : worker.Handling items during rest) :
    Responding worker (.batch items) during rest
  | reporting {cause : Condition} {next : Unit → Plan (Except WorkerFailure Unit)}
      (passing : cause.fatal = false) :
    Responding worker (.failed cause) []
      (.ask (.log (.pollFailed worker.source.id cause.text)) next)

/-- The beginning of a cycle: the run goes on, the producer has more to give, and is polled. -/
def turn (worker : Worker) (polled : Polled) : List Exchange :=
  [⟨.isCancelled, false⟩, ⟨.isExhausted worker.source.key, false⟩,
    ⟨.poll worker.source.key worker.source.pollTimeout, polled⟩]

/-- A polling, cycle by cycle: how far it has come, and what is left of it. -/
inductive PollCycles (worker : Worker) :
    List Exchange → Plan (Except WorkerFailure Unit) → Prop where
  | spent : PollCycles worker [] .starved
  | fresh {next : Bool → Plan (Except WorkerFailure Unit)} :
    PollCycles worker [] (.ask .isCancelled next)
  | uncancelled {next : Bool → Plan (Except WorkerFailure Unit)} :
    PollCycles worker [⟨.isCancelled, false⟩] (.ask (.isExhausted worker.source.key) next)
  | unexhausted {next : Polled → Plan (Except WorkerFailure Unit)} :
    PollCycles worker [⟨.isCancelled, false⟩, ⟨.isExhausted worker.source.key, false⟩]
      (.ask (.poll worker.source.key worker.source.pollTimeout) next)
  | cancelled : PollCycles worker [⟨.isCancelled, true⟩] (.done (.ok ()))
  | exhausted :
    PollCycles worker [⟨.isCancelled, false⟩, ⟨.isExhausted worker.source.key, true⟩]
      (.done (.ok ()))
  | amid {polled : Polled} {during : List Exchange} {rest : Plan (Except WorkerFailure Unit)}
      (responding : worker.Responding polled during rest) :
    PollCycles worker (worker.turn polled ++ during) rest
  | last {polled : Polled} {during : List Exchange} {result : Except WorkerFailure Unit}
      (responds : worker.Responds polled during (some result)) :
    PollCycles worker (worker.turn polled ++ during) (.done result)
  | cycle {polled : Polled} {during later : List Exchange}
      {rest : Plan (Except WorkerFailure Unit)} (responds : worker.Responds polled during none)
      (cycles : PollCycles worker later rest) :
    PollCycles worker (worker.turn polled ++ (during ++ later)) rest

/-- What is left of a cycle once the poll was answered, and of the cycles after it. -/
def respond (worker : Worker) (rounds : Nat) : Polled → Plan (Except WorkerFailure Unit)
  | .cancelled => return .ok ()
  | .nothing | .batch [] => worker.pollLoop rounds
  | .batch (first :: rest) => do
    match ← worker.routeBatch (first :: rest) with
    | .error failure => return .error failure
    | .ok () => worker.pollLoop rounds
  | .failed cause => do
    if cause.fatal then return .error (.poll worker.source.id cause)
    Plan.log (.pollFailed worker.source.id cause.text)
    worker.pollLoop rounds

/-- A cycle is under way until the worker has responded to the poll, and others may follow. -/
theorem respond_cycles {rounds : Nat} {trace : List Exchange}
    {rest : Plan (Except WorkerFailure Unit)}
    (further : ∀ {later}, (worker.pollLoop rounds).Reaches later rest →
      worker.PollCycles later rest)
    {polled : Polled} (reaches : (worker.respond rounds polled).Reaches trace rest) :
    worker.PollCycles (worker.turn polled ++ trace) rest := by
  -- A case for each outcome of a poll, and for a batch whether it has items.
  cases polled with
  | cancelled =>
    obtain ⟨rfl, rfl⟩ := Plan.reaches_done_iff.mp reaches
    exact .last .cancelled
  -- The loop goes on at once where there is nothing to be routed.
  | nothing => exact .cycle .nothing (further reaches)
  | batch items =>
    cases items with
    | nil => exact .cycle .empty (further reaches)
    | cons first others =>
      have occupied : first :: others ≠ [] := by simp
      rcases routeBatch_bind_reaches reaches with handling |
        ⟨outcome, handled, later, rfl, whole, goesOn⟩
      · exact .amid (.handling occupied handling)
      · -- The loop goes on after a batch that was handled well, and ends with any other.
        cases outcome with
        | error failure =>
          obtain ⟨rfl, rfl⟩ := Plan.reaches_done_iff.mp goesOn
          rw [List.append_nil]
          exact .last (.stopped occupied whole)
        | ok _ => exact .cycle (.routed occupied whole) (further goesOn)
  | failed cause =>
    -- Only a fatal failure ends the polling, and any other one is reported.
    cases fatal : cause.fatal with
    | true =>
      simp only [respond, fatal, if_true] at reaches
      obtain ⟨rfl, rfl⟩ := Plan.reaches_done_iff.mp reaches
      exact .last (.fatal fatal)
    | false =>
      simp only [respond, fatal, Bool.false_eq_true, if_false] at reaches
      rcases Plan.reaches_ask_iff.mp reaches with ⟨rfl, rfl⟩ | ⟨_, later, rfl, goesOn⟩
      · exact .amid (.reporting fatal)
      · exact .cycle (.reported fatal) (further goesOn)

/-- However far the polling is followed, it has gone cycle by cycle. -/
theorem pollLoop_cycles {rounds : Nat} {trace : List Exchange}
    {rest : Plan (Except WorkerFailure Unit)}
    (reaches : (worker.pollLoop rounds).Reaches trace rest) : worker.PollCycles trace rest := by
  -- Every cycle that is not the last one leads back to the loop, with one round less.
  induction rounds generalizing trace with
  | zero =>
    cases reaches
    exact .spent
  | succ rounds ih =>
    rcases Plan.reaches_ask_iff.mp reaches with ⟨rfl, rfl⟩ | ⟨cancelled, _, rfl, looked⟩
    · exact .fresh
    · cases cancelled with
      | true =>
        obtain ⟨rfl, rfl⟩ := Plan.reaches_done_iff.mp looked
        exact .cancelled
      | false =>
        rcases Plan.reaches_ask_iff.mp looked with ⟨rfl, rfl⟩ | ⟨exhausted, _, rfl, polls⟩
        · exact .uncancelled
        · cases exhausted with
          | true =>
            obtain ⟨rfl, rfl⟩ := Plan.reaches_done_iff.mp polls
            exact .exhausted
          | false =>
            rcases Plan.reaches_ask_iff.mp polls with ⟨rfl, rfl⟩ | ⟨polled, _, rfl, responds⟩
            · exact .unexhausted
            · -- The code takes an empty batch and one with items in it for two cases of their own.
              refine respond_cycles ih ?_
              cases polled with
              | batch items => cases items <;> exact responds
              | _ => exact responds

end Worker

end BatchFlow
