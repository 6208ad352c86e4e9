import BatchFlow.Proofs.Plan.Observes

/-! What work comes to when it is answered honestly: it ends, with a result, and the result and the
state that it leaves are as agreed. -/

namespace BatchFlow

open Plan (Exchange)

namespace Plan

variable {α β ρ : Type} {honest : Exchange → Prop} {ends kept : ρ → Prop}

/-- With honest answers the plan comes to an end, and what it ends with is as agreed. -/
def Yields (honest : Exchange → Prop) (ends : ρ → Prop) : Plan ρ → Prop
  | done result => ends result
  | ask call next => ∀ reply, honest ⟨call, reply⟩ → Yields honest ends (next reply)
  | starved => False

/-- An agreement may promise less than is kept. -/
theorem Yields.weaken {plan : Plan ρ} (yields : plan.Yields honest kept)
    (promised : ∀ result, kept result → ends result) : plan.Yields honest ends := by
  induction plan with
  | done result => exact promised result yields
  | ask call next ih => exact fun reply given => ih reply (yields reply given)
  | starved => exact yields

/-- One plan after another yields what the second one makes of the result of the first. -/
theorem Yields.bind {plan : Plan α} {next : α → Plan β} {middle : α → Prop} {ends : β → Prop}
    (first : plan.Yields honest middle)
    (second : ∀ value, middle value → (next value).Yields honest ends) :
    (plan.bind next).Yields honest ends := by
  -- The induction follows the first plan to its end, where the second one takes over.
  induction plan with
  | done value => exact second value first
  | ask call rest ih => exact fun reply given => ih reply (first reply given)
  | starved => exact first

/-- A run with honest answers ends as agreed. -/
theorem Yields.runs {plan : Plan ρ} {trace : List Exchange} {result : ρ}
    (yields : plan.Yields honest ends) (runs : plan.Runs trace result)
    (given : ∀ exchange ∈ trace, honest exchange) : ends result := by
  induction runs with
  | done result => exact yields
  -- The answer that was given is an honest one, and so are those after it.
  | ask call next reply trace result rest ih =>
    obtain ⟨first, later⟩ := List.forall_mem_cons.mp given
    exact ih (yields reply first) later

/-- A plan that comes to an end in any case does so with honest answers. -/
theorem Confined.yields {plan : Plan ρ} {allowed : Call → Prop}
    (confined : plan.Confined allowed False ends) : plan.Yields honest ends := by
  -- Whatever is asked, it may be asked in the only state there is.
  induction plan with
  | done result => exact confined
  | ask call next ih => exact fun reply _ => ih reply (confined.2 reply () rfl)
  | starved => exact confined

end Plan

namespace Work

variable {σ τ α β : Type} {honest : Exchange → Prop} {state : σ}

/-- Begun in a state and answered honestly, the work comes to a result, and the result and the state
that it leaves are as agreed. -/
def Yields (honest : Exchange → Prop) (work : Work σ α) (state : σ) (ends : α → σ → Prop) : Prop :=
  (work state).Yields honest fun ended => ∃ value, ended.2 = .ok value ∧ ends value ended.1

variable {ends : α → σ → Prop}

/-- An agreement may promise less of the result and the state than is kept. -/
theorem Yields.weaken {work : Work σ α} {kept : α → σ → Prop}
    (yields : work.Yields honest state kept)
    (promised : ∀ value after, kept value after → ends value after) :
    work.Yields honest state ends :=
  Plan.Yields.weaken yields fun _ ⟨value, came, held⟩ => ⟨value, came, promised value _ held⟩

/-- One piece of work after another: what the first one leaves is what the second one begins
with. -/
theorem Yields.bind {work : Work σ α} {next : α → Work σ β} {middle : α → σ → Prop}
    {ends : β → σ → Prop} (first : work.Yields honest state middle)
    (second : ∀ value after, middle value after → (next value).Yields honest after ends) :
    (work >>= next).Yields honest state ends := by
  -- There is a result, so the second piece of work is begun where the first one ended.
  refine Plan.Yields.bind first fun ended kept => ?_
  obtain ⟨after, outcome⟩ := ended
  obtain ⟨value, rfl, held⟩ := kept
  exact second value after held

/-- A result that is there already leaves the state as it is. -/
theorem yields_pure {value : α} (held : ends value state) :
    (pure value : Work σ α).Yields honest state ends :=
  ⟨value, rfl, held⟩

/-- Work that begins with a question goes on from any honest answer. -/
theorem yields_call_bind {question : Call} {next : question.Reply → Work σ β} {ends : β → σ → Prop}
    (further : ∀ reply, honest ⟨question, reply⟩ → (next reply).Yields honest state ends) :
    (call question >>= next).Yields honest state ends :=
  fun reply given => further reply given

/-- A report makes no difference to what comes after it. -/
theorem yields_log_bind {event : Event} {next : Unit → Work σ β} {ends : β → σ → Prop}
    (further : (next ()).Yields honest state ends) :
    (log event >>= next).Yields honest state ends :=
  yields_call_bind fun _ _ => further

/-- A change of the state leaves the changed one. -/
theorem yields_modify {change : σ → σ} {ends : Unit → σ → Prop} (held : ends () (change state)) :
    (modify change).Yields honest state ends :=
  ⟨(), rfl, held⟩

/-- Work on a part of the state yields what it yields on that part. -/
theorem yields_onPart {get : τ → σ} {set : σ → τ → τ} {work : Work σ α} {state : τ}
    {ends : α → τ → Prop}
    (yields : work.Yields honest (get state) fun value part => ends value (set part state)) :
    (work.onPart get set).Yields honest state ends :=
  Plan.Yields.bind yields fun _ ⟨value, came, held⟩ => ⟨value, came, held⟩

/-- A step that may be faulty yields a result if it turns out not to be. -/
theorem yields_ofFaulty {step : σ → Plan (σ × Except TransactionFault α)}
    (yields : (step state).Yields honest fun ended =>
      ∃ value, ended.2 = .ok value ∧ ends value ended.1) :
    (ofFaulty step).Yields honest state ends :=
  Plan.Yields.bind yields fun _ ⟨value, came, held⟩ =>
    ⟨value, congrArg (Except.mapError RouteFailure.transaction) came, held⟩

end Work

end BatchFlow
