import BatchFlow.Event
import BatchFlow.Lifecycle
import BatchFlow.Message
import BatchFlow.Terminal

/-! Plans: the engine's work as data. A plan asks its surroundings one question after another and
goes on from each answer, so its behaviour can be followed under every possible behaviour of the
collaborators, of the clock and of the other tasks. -/

namespace BatchFlow

/-- Whatever has a lifecycle. -/
inductive Component where
  | adaptor
  | node (id : String)
  /-- A producer, by its place among the registered ones. -/
  | producer (key : Nat)
deriving DecidableEq

/-- What a poll comes to. -/
inductive Polled where
  | batch (items : List Item)
  | nothing
  | failed (condition : Condition)
  /-- The run was cancelled before the producer answered. -/
  | cancelled

/-- What a timed read comes to. -/
inductive ReadOutcome where
  | records (items : List Item)
  | failed (condition : Condition)
  | timedOut

/-- A question to the surroundings. -/
inductive Call where
  /-- Reports an event. -/
  | log (event : Event)
  /-- Reads the clock. -/
  | clock
  /-- Takes the next transaction number. -/
  | openTransaction
  /-- Makes an empty metadata map. -/
  | newMetadata
  /-- Moves a component through its lifecycle, and tells whether it moved. -/
  | advance (component : Component) (transition : Transition)
  -- Resources.
  | beginWork (resource : Resource)
  | commitWork (resource : Resource)
  | rollbackWork (resource : Resource) (cause : String)
  -- The collaborators of nodes.
  | connectNode (node : String)
  | disconnectNode (node : String)
  | nodeResource (node : String)
  | shareMetadata (node : String) (metadata : Nat)
  | resetStep (node : String) (context : Option Item)
  | applyStep (node : String) (item : Item)
  | deliver (node : String) (items : List Item)
  | parametersFor (node : String) (item : Item)
  | readRecords (node : String) (parameters : Option Item) (timeout : Duration)
  | enrichItem (node : String) (item : Item) (records : List Item)
  -- Producers.
  | connectProducer (producer : Nat)
  | disconnectProducer (producer : Nat)
  | shutdownProducer (producer : Nat)
  | isExhausted (producer : Nat)
  | poll (producer : Nat) (timeout : Duration)
  | contextOf (producer : Nat)
  | setContext (producer : Nat) (context : Item)
  | producerResource (producer : Nat)
  | onTerminal (producer : Nat) (results : Terminal)
  -- The run that the task belongs to.
  /-- Starts a run, which nobody has cancelled yet. -/
  | openRun
  | isCancelled
  | cancelRun
  /-- Waits for a while, and tells whether the run was cancelled before it was over. -/
  | pause (delay : Duration)
  /-- Starts the worker of a producer as a task of its own. -/
  | spawnWorker (producer : Nat)
  /-- Waits for the next worker to end: its producer's id and its exit code. -/
  | nextExit
  /-- Takes the exit of a worker that has ended; a worker that panicked has none. -/
  | collectExit (producer : Nat)

/-- The type of the answer to a question. -/
@[reducible] def Call.Reply : Call → Type
  | .log _ | .shareMetadata .. | .resetStep .. | .shutdownProducer _ | .setContext .. | .openRun
  | .cancelRun | .spawnWorker _ => Unit
  | .clock => Duration
  | .openTransaction | .newMetadata => Nat
  | .advance .. | .isExhausted _ | .isCancelled | .pause _ => Bool
  | .beginWork _ | .commitWork _ | .rollbackWork .. | .connectNode _ | .disconnectNode _
  | .connectProducer _ | .disconnectProducer _ | .onTerminal .. => Except Condition Unit
  | .nodeResource _ | .producerResource _ => Option Resource
  | .applyStep .. | .enrichItem .. => StepResult
  | .deliver .. => Except Condition (Option Item)
  | .parametersFor .. | .contextOf _ => Option Item
  | .readRecords .. => ReadOutcome
  | .poll .. => Polled
  | .nextExit => String × Int32
  | .collectExit _ => Option WorkerExit

/-- A piece of work that ends with a result, asks and goes on, or has used up its allowance. -/
inductive Plan (ρ : Type) where
  | done (result : ρ)
  | ask (call : Call) (next : call.Reply → Plan ρ)
  /-- The depth or the number of rounds that was allowed did not suffice. -/
  | starved

namespace Plan

variable {α β ρ : Type}

/-- First one plan, and then one that depends on its result. -/
def bind : Plan α → (α → Plan β) → Plan β
  | done result, next => next result
  | ask call rest, next => ask call fun reply => (rest reply).bind next
  | starved, _ => starved

instance : Monad Plan where
  pure := done
  bind := bind

/-- A value asks nothing. -/
@[simp] theorem pure_eq_done (result : α) : (pure result : Plan α) = done result := rfl

/-- What follows a result begins with it. -/
@[simp] theorem done_bind (result : α) (next : α → Plan β) :
    (done result >>= next) = next result := rfl

/-- A plan that asks first goes on to what follows after the answer. -/
@[simp] theorem ask_bind (call : Call) (rest : call.Reply → Plan α) (next : α → Plan β) :
    (ask call rest >>= next) = ask call fun reply => rest reply >>= next := rfl

/-- Nothing follows once the allowance is used up. -/
@[simp] theorem starved_bind (next : α → Plan β) : (starved >>= next) = starved := rfl

/-- Nothing follows from doing nothing afterwards. -/
theorem bind_done (plan : Plan α) : plan.bind done = plan := by
  -- The end of the plan is where the two sides differ, so the induction goes there.
  induction plan with
  | done result => rfl
  | ask call rest ih => simp only [bind, ih]
  | starved => rfl

/-- Sequences can be regrouped. -/
theorem bind_assoc {γ : Type} (plan : Plan α) (first : α → Plan β) (second : β → Plan γ) :
    (plan.bind first).bind second = plan.bind fun result => (first result).bind second := by
  induction plan with
  | done result => rfl
  | ask call rest ih => simp only [bind, ih]
  | starved => rfl

instance : LawfulMonad Plan := by
  refine LawfulMonad.mk' _ ?_ ?_ ?_
  · exact fun plan => bind_done plan
  · exact fun _ _ => rfl
  · exact fun plan first second => bind_assoc plan first second

/-- Asks one question. -/
def call (call : Call) : Plan call.Reply := ask call done

/-- Reports an event. -/
def log (event : Event) : Plan Unit := call (.log event)

/-- Moves a component through its lifecycle, and tells whether it moved. -/
def advance (component : Component) (transition : Transition) : Plan Bool :=
  call (.advance component transition)

/-- A question that was asked, and the answer it got. -/
structure Exchange where
  call : Call
  reply : call.Reply

/-- `plan.Runs trace result`: with the answers of the trace, the plan asks exactly the questions of
the trace and ends with the result. -/
inductive Runs : Plan ρ → List Exchange → ρ → Prop where
  | done (result : ρ) : Runs (.done result) [] result
  | ask (call : Call) (next : call.Reply → Plan ρ) (reply : call.Reply) (trace : List Exchange)
      (result : ρ) (rest : Runs (next reply) trace result) :
      Runs (.ask call next) (⟨call, reply⟩ :: trace) result

/-- `plan.Reaches trace rest`: after the exchanges of the trace, the rest of the plan is left. -/
inductive Reaches : Plan ρ → List Exchange → Plan ρ → Prop where
  | start (plan : Plan ρ) : Reaches plan [] plan
  | ask (call : Call) (next : call.Reply → Plan ρ) (reply : call.Reply) (trace : List Exchange)
      (rest : Plan ρ) (more : Reaches (next reply) trace rest) :
      Reaches (.ask call next) (⟨call, reply⟩ :: trace) rest

end Plan

end BatchFlow
