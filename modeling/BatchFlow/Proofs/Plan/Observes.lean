import BatchFlow.Proofs.Plan.Runs

/-! What a plan asks at every moment, whether or not it ever comes to an end, and what it ends with
if it does. -/

namespace BatchFlow

namespace Plan

variable {σ α β ρ : Type}

/-- What may be asked in a state, and which state an exchange leads to. An answer that leads to none
is never given. -/
structure Rules (σ : Type) where
  permits : σ → Call → Prop
  after? : σ → Exchange → Option σ
  /-- Whether the allowance may turn out not to suffice. -/
  boundless : Prop

/-- Begun in a state, the plan asks only what is permitted by then, and what it ends with is as
agreed. -/
def Observes (rules : Rules σ) (ends : ρ → σ → Prop) : Plan ρ → σ → Prop
  | done result, state => ends result state
  | ask call next, state => rules.permits state call ∧
      ∀ reply later, rules.after? state ⟨call, reply⟩ = some later →
        Observes rules ends (next reply) later
  | starved, _ => rules.boundless

variable {rules : Rules σ} {state : σ}

/-- An agreement on the end may promise less than is kept. -/
theorem Observes.weaken {plan : Plan ρ} {ends kept : ρ → σ → Prop}
    (observes : plan.Observes rules kept state)
    (promised : ∀ result later, kept result later → ends result later) :
    plan.Observes rules ends state := by
  -- The answers decide the states in between, so the state is generalised.
  induction plan generalizing state with
  | done result => exact promised result state observes
  | ask call next ih =>
    exact ⟨observes.1, fun reply later led => ih reply (observes.2 reply later led)⟩
  | starved => exact observes

/-- One plan after another observes the rules, if the second one does wherever the first one
ends. -/
theorem Observes.bind {plan : Plan α} {next : α → Plan β} {middle : α → σ → Prop}
    {ends : β → σ → Prop} (first : plan.Observes rules middle state)
    (second : ∀ value later, middle value later → (next value).Observes rules ends later) :
    (plan.bind next).Observes rules ends state := by
  -- The induction follows the first plan to its end, where the second one takes over.
  induction plan generalizing state with
  | done value => exact second value state first
  | ask call rest ih =>
    exact ⟨first.1, fun reply later led => ih reply (first.2 reply later led)⟩
  | starved => exact first

/-- Rules that are the same at all times. -/
def Rules.always (allowed : Call → Prop) (boundless : Prop) : Rules Unit :=
  ⟨fun _ => allowed, fun _ _ => some (), boundless⟩

/-- Whatever it is answered, the plan asks nothing but what is allowed, and what it ends with is as
agreed. -/
def Confined (allowed : Call → Prop) (boundless : Prop) (ends : ρ → Prop) (plan : Plan ρ) : Prop :=
  plan.Observes (.always allowed boundless) (fun result _ => ends result) ()

variable {allowed : Call → Prop} {boundless : Prop} {ends : ρ → Prop}

/-- Of two sets of rules, the plan that keeps to the stricter ones keeps to the others. -/
theorem Confined.weaken {plan : Plan ρ} {granted : Call → Prop} {unbounded : Prop}
    {kept : ρ → Prop} (confined : plan.Confined allowed boundless kept)
    (allows : ∀ call, allowed call → granted call) (outlasts : boundless → unbounded)
    (promised : ∀ result, kept result → ends result) :
    plan.Confined granted unbounded ends := by
  -- The rules are the same at all times, so there is no state to generalise.
  induction plan with
  | done result => exact promised result confined
  | ask call next ih =>
    exact ⟨allows call confined.1, fun reply _ _ => ih reply (confined.2 reply () rfl)⟩
  | starved => exact outlasts confined

/-- One plan after another keeps to such rules, if both do. -/
theorem Confined.bind {plan : Plan α} {next : α → Plan β} {middle : α → Prop} {ends : β → Prop}
    (first : plan.Confined allowed boundless middle)
    (second : ∀ value, middle value → (next value).Confined allowed boundless ends) :
    (plan.bind next).Confined allowed boundless ends :=
  Observes.bind first fun value _ kept => second value kept

/-- A single question is allowed if it is. -/
theorem confined_call {call : Call} (permitted : allowed call) :
    (Plan.call call).Confined allowed boundless fun _ => True :=
  ⟨permitted, fun _ _ _ => trivial⟩

/-- A plan that keeps to rules for all times observes others, if what it may ask is permitted there
and leaves the state alone. -/
theorem Confined.observes {plan : Plan ρ} (confined : plan.Confined allowed boundless ends)
    (permitted : ∀ call, allowed call → rules.permits state call)
    (unmoved : ∀ call reply later, allowed call → rules.after? state ⟨call, reply⟩ = some later →
      later = state)
    (unbounded : boundless → rules.boundless) :
    plan.Observes rules (fun result later => ends result ∧ later = state) state := by
  induction plan with
  | done result => exact ⟨confined, rfl⟩
  | ask call next ih =>
    -- The question leaves the state alone, so the rest begins in the same one.
    refine ⟨permitted call confined.1, fun reply later led => ?_⟩
    rw [unmoved call reply later confined.1 led]
    exact ih reply (confined.2 reply () rfl)
  | starved => exact unbounded confined

/-- What ends has been followed to its end. -/
theorem Runs.reaches {plan : Plan ρ} {trace : List Exchange} {result : ρ}
    (runs : plan.Runs trace result) : plan.Reaches trace (.done result) := by
  induction runs with
  | done result => exact .start _
  | ask call next reply trace result rest ih => exact .ask call next reply trace _ ih

/-- A plan that is followed so far can be followed further. -/
theorem Reaches.append {plan middle last : Plan ρ} {first rest : List Exchange}
    (reaches : plan.Reaches first middle) (further : middle.Reaches rest last) :
    plan.Reaches (first ++ rest) last := by
  -- By induction on how far the plan was followed first.
  induction reaches with
  | start plan => exact further
  | ask call next reply trace middle more ih => exact .ask call next reply _ last (ih further)

/-- A plan that is followed through two parts of a trace is followed through the first one, and then
through the second. -/
theorem Reaches.split {plan last : Plan ρ} {first rest : List Exchange}
    (reaches : plan.Reaches (first ++ rest) last) :
    ∃ middle, plan.Reaches first middle ∧ middle.Reaches rest last := by
  -- The exchanges of the first part are taken away one by one.
  induction first generalizing plan with
  | nil => exact ⟨plan, .start plan, reaches⟩
  | cons exchange first ih =>
    cases reaches with
    | ask call next reply _ _ more =>
      obtain ⟨middle, before, after⟩ := ih more
      exact ⟨middle, .ask call next reply first middle before, after⟩

/-- A plan that is followed up to a question can be followed through the answer to it. -/
theorem Reaches.answered {plan : Plan ρ} {trace : List Exchange} {call : Call}
    {next : call.Reply → Plan ρ} (reaches : plan.Reaches trace (.ask call next))
    (reply : call.Reply) : plan.Reaches (trace ++ [⟨call, reply⟩]) (next reply) :=
  reaches.append (.ask call next reply [] _ (.start _))

/-- What is followed to its end has been run. -/
theorem Reaches.runs {plan middle : Plan ρ} {first rest : List Exchange} {result : ρ}
    (reaches : plan.Reaches first middle) (ended : middle.Runs rest result) :
    plan.Runs (first ++ rest) result := by
  induction reaches with
  | start plan => exact ended
  | ask call next reply trace middle more ih => exact .ask call next reply _ result (ih ended)

/-- A finished plan is not followed any further. -/
theorem reaches_done_iff {result : ρ} {trace : List Exchange} {rest : Plan ρ} :
    (done result).Reaches trace rest ↔ trace = [] ∧ rest = done result := by
  -- There is nothing to answer, so only the beginning is reached.
  constructor
  · intro reaches
    cases reaches
    exact ⟨rfl, rfl⟩
  · rintro ⟨rfl, rfl⟩
    exact .start _

/-- A plan that asks is left as it is, or followed through an answer. -/
theorem reaches_ask_iff {call : Call} {next : call.Reply → Plan ρ} {trace : List Exchange}
    {rest : Plan ρ} :
    (ask call next).Reaches trace rest ↔ (trace = [] ∧ rest = ask call next) ∨
      ∃ reply more, trace = ⟨call, reply⟩ :: more ∧ (next reply).Reaches more rest := by
  constructor
  · intro reaches
    cases reaches with
    | start => exact .inl ⟨rfl, rfl⟩
    | ask _ _ reply more _ further => exact .inr ⟨reply, more, rfl, further⟩
  · rintro (⟨rfl, rfl⟩ | ⟨reply, more, rfl, further⟩)
    · exact .start _
    · exact .ask call next reply more rest further

/-- One plan after another is followed within the first one while that is not over, or else through
it and into the second. -/
theorem reaches_bind_cases {plan : Plan α} {next : α → Plan β} {trace : List Exchange}
    {rest : Plan β} (reaches : (plan.bind next).Reaches trace rest) :
    (∃ left, plan.Reaches trace left ∧ (∀ value, left ≠ done value) ∧ rest = left.bind next) ∨
      ∃ value first last, trace = first ++ last ∧ plan.Runs first value ∧
        (next value).Reaches last rest := by
  -- The trace follows the first plan until it breaks off or that plan is over.
  induction plan generalizing trace with
  | done value => exact .inr ⟨value, [], trace, rfl, .done value, reaches⟩
  | ask call further ih =>
    rcases reaches_ask_iff.mp reaches with ⟨rfl, rfl⟩ | ⟨reply, more, rfl, goesOn⟩
    · exact .inl ⟨_, .start _, fun _ => nofun, rfl⟩
    · rcases ih reply goesOn with ⟨left, within, unfinished, rfl⟩ |
        ⟨value, first, last, rfl, ended, beyond⟩
      · exact .inl ⟨left, .ask _ _ _ _ _ within, unfinished, rfl⟩
      · exact .inr ⟨value, _, last, rfl, .ask _ _ _ _ _ ended, beyond⟩
  | starved =>
    cases reaches
    exact .inl ⟨starved, .start _, fun _ => nofun, rfl⟩

/-- What follows upon a plan that is not over is not over either. -/
theorem bind_ne_done {plan : Plan α} {next : α → Plan β} (unfinished : ∀ value, plan ≠ done value)
    (result : β) : plan.bind next ≠ done result := by
  cases plan with
  | done value => exact absurd rfl (unfinished value)
  | ask | starved => nofun

/-- However far a plan is followed, it has asked nothing but what is allowed, and goes on so. -/
theorem Confined.reaches {plan rest : Plan ρ} {trace : List Exchange}
    (confined : plan.Confined allowed boundless ends) (reaches : plan.Reaches trace rest) :
    (∀ exchange ∈ trace, allowed exchange.call) ∧ rest.Confined allowed boundless ends := by
  -- By induction on how far the plan was followed.
  induction reaches with
  | start plan => exact ⟨by simp, confined⟩
  | ask call next reply trace rest more ih =>
    obtain ⟨later, kept⟩ := ih (confined.2 reply () rfl)
    exact ⟨List.forall_mem_cons.mpr ⟨confined.1, later⟩, kept⟩

/-- A run asks nothing but what is allowed, and its result is as agreed. -/
theorem Confined.runs {plan : Plan ρ} {trace : List Exchange} {result : ρ}
    (confined : plan.Confined allowed boundless ends) (runs : plan.Runs trace result) :
    (∀ exchange ∈ trace, allowed exchange.call) ∧ ends result :=
  confined.reaches runs.reaches

/-- Whatever it is answered, the plan comes to an end. -/
def Ends : Plan ρ → Prop
  | done _ => True
  | ask _ next => ∀ reply, (next reply).Ends
  | starved => False

/-- A plan that may not go beyond its allowance comes to an end. -/
theorem Confined.comesToAnEnd {plan : Plan ρ} (confined : plan.Confined allowed False ends) :
    plan.Ends := by
  -- A plan that lacks fuel would go beyond.
  induction plan with
  | done result => trivial
  | ask call next ih => exact fun reply => ih reply (confined.2 reply () rfl)
  | starved => exact confined

end Plan

namespace Work

variable {σ τ α β : Type}

/-- What work may ask, which failures it may come to, and whether its allowance may turn out not to
suffice. -/
structure Bounds where
  allowed : Call → Prop
  excused : RouteFailure → Prop
  boundless : Prop

/-- The work keeps within its bounds, and whatever comes of it, what held of the state before still
holds. -/
def Confined (work : Work σ α) (bounds : Bounds) (fact : σ → Prop) : Prop :=
  ∀ state, fact state → (work state).Confined bounds.allowed bounds.boundless fun ended =>
    fact ended.1 ∧ ∀ failure, ended.2 = .error failure → bounds.excused failure

variable {bounds : Bounds} {fact : σ → Prop}

/-- Wider bounds are kept as well. -/
theorem Confined.weaken {work : Work σ α} {wider : Bounds} (confined : work.Confined bounds fact)
    (allows : ∀ call, bounds.allowed call → wider.allowed call)
    (excuses : ∀ failure, bounds.excused failure → wider.excused failure)
    (outlasts : bounds.boundless → wider.boundless) : work.Confined wider fact :=
  fun state held => (confined state held).weaken allows outlasts fun _ ended =>
    ⟨ended.1, fun failure raised => excuses failure (ended.2 failure raised)⟩

/-- A value asks nothing and leaves everything as it is. -/
theorem confined_pure {value : α} : (pure value : Work σ α).Confined bounds fact :=
  fun _ held => ⟨held, fun _ raised => by cases raised⟩

/-- Work may be abandoned with a failure that is excused. -/
theorem confined_abandon {failure : RouteFailure} (excused : bounds.excused failure) :
    (abandon failure : Work σ α).Confined bounds fact :=
  fun _ held => ⟨held, fun _ raised => by cases raised; exact excused⟩

/-- It may use up its allowance where that is foreseen. -/
theorem confined_starve (boundless : bounds.boundless) :
    (starve : Work σ α).Confined bounds fact :=
  fun _ _ => boundless

/-- It may change the state in a way that keeps what held of it. -/
theorem confined_modify {change : σ → σ} (kept : ∀ state, fact state → fact (change state)) :
    (modify change).Confined bounds fact :=
  fun state held => ⟨kept state held, fun _ raised => by cases raised⟩

/-- It may ask a question that is allowed. -/
theorem confined_call {question : Call} (allowed : bounds.allowed question) :
    (call question : Work σ question.Reply).Confined bounds fact :=
  fun _ held => ⟨allowed, fun _ _ _ => ⟨held, fun _ raised => by cases raised⟩⟩

/-- One piece of work after another keeps within the bounds, if both do. -/
theorem Confined.bind {work : Work σ α} {next : α → Work σ β} (first : work.Confined bounds fact)
    (second : ∀ value, (next value).Confined bounds fact) :
    (work >>= next).Confined bounds fact := by
  intro state held
  -- What held before the first part still holds when the second one begins.
  refine Plan.Observes.bind (first state held) fun ended _ kept => ?_
  obtain ⟨middle, result⟩ := ended
  cases result with
  | ok value => exact second value middle kept.1
  -- The second part is not begun, so the failure is one of the first part.
  | error failure =>
    refine ⟨kept.1, fun raised same => ?_⟩
    cases same
    exact kept.2 failure rfl

/-- So does work on element after element, if the work on each of them does. -/
theorem confined_forEach {elements : List α} {work : α → Work σ Unit}
    (each : ∀ element ∈ elements, (work element).Confined bounds fact) :
    (forEach elements work).Confined bounds fact := by
  induction elements with
  | nil => exact confined_pure
  | cons element rest ih =>
    exact (each element (by simp)).bind fun _ =>
      ih fun later member => each later (by simp [member])

/-- Work on a part of the state keeps what does not depend on that part. -/
theorem confined_onPart {get : τ → σ} {set : σ → τ → τ} {work : Work σ α} {fact : τ → Prop}
    (confined : work.Confined bounds fun _ => True)
    (kept : ∀ part state, fact state → fact (set part state)) :
    (work.onPart get set).Confined bounds fact :=
  fun state held => Plan.Observes.bind (confined (get state) trivial) fun ended _ left =>
    ⟨kept ended.1 state held, left.2⟩

/-- A step that may be faulty fails only with its faults. -/
theorem confined_ofFaulty {step : σ → Plan (σ × Except TransactionFault α)}
    (confined : ∀ state, (step state).Confined bounds.allowed bounds.boundless fun _ => True)
    (excused : ∀ fault, bounds.excused (.transaction fault)) :
    (ofFaulty step).Confined bounds fun _ => True := by
  intro state _
  refine Plan.Observes.bind (confined state) fun ended _ _ => ⟨trivial, fun failure raised => ?_⟩
  -- The only failures are the faults of the step.
  obtain ⟨after, result⟩ := ended
  cases result with
  | ok value => cases raised
  | error fault =>
    cases raised
    exact excused fault

end Work

end BatchFlow
