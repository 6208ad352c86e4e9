import BatchFlow.Proofs.Plan.Observes

/-! Plans in surroundings that keep a state of their own, and may answer in more than one way. -/

namespace BatchFlow.Plan

variable {σ τ α β ρ : Type}

/-- The surroundings come from one state to another while a trace passes. -/
inductive Passes (turn : σ → Exchange → σ → Prop) : σ → List Exchange → σ → Prop where
  | start (state : σ) : Passes turn state [] state
  | next {state middle last : σ} {exchange : Exchange} {trace : List Exchange}
      (turned : turn state exchange middle) (rest : Passes turn middle trace last) :
    Passes turn state (exchange :: trace) last

/-- Surroundings that a plan is carried out in. -/
structure Environment (σ : Type) where
  /-- How an exchange takes them from one state to another. -/
  turn : σ → Exchange → σ → Prop
  /-- What holds of each of their states, at whatever point the plan is left. -/
  keeps : σ → Prop
  /-- Whether a plan can count on an answer to each question, and on an allowance that suffices. -/
  isLive : Prop

/-- Begun in a state of its surroundings, the plan keeps what holds of their states, and what it
ends with is as agreed. In live surroundings it is always answered and never uses up its allowance.
-/
def Thrives (env : Environment σ) (ends : ρ → σ → Prop) : Plan ρ → σ → Prop
  | done result, state => env.keeps state ∧ ends result state
  | ask call next, state => env.keeps state ∧
      (env.isLive → ∃ reply later, env.turn state ⟨call, reply⟩ later) ∧
      ∀ reply later, env.turn state ⟨call, reply⟩ later → Thrives env ends (next reply) later
  | starved, state => env.keeps state ∧ ¬ env.isLive

variable {turn : σ → Exchange → σ → Prop} {env : Environment σ} {state middle last : σ}
  {first rest trace : List Exchange}

/-- What passes while one trace is followed, and then another, passes while both are. -/
theorem Passes.append (passes : Passes turn state first middle)
    (further : Passes turn middle rest last) : Passes turn state (first ++ rest) last := by
  induction passes with
  | start => exact further
  | next turned _ ih => exact .next turned (ih further)

/-- What passes while two traces are followed one after the other passes a state between them. -/
theorem passes_append_iff : Passes turn state (first ++ rest) last ↔
    ∃ middle, Passes turn state first middle ∧ Passes turn middle rest last := by
  constructor
  · -- The state between the two traces is found exchange by exchange.
    intro passes
    induction first generalizing state with
    | nil => exact ⟨state, .start _, passes⟩
    | cons exchange first ih =>
      cases passes with
      | next turned more =>
        obtain ⟨middle, before, after⟩ := ih more
        exact ⟨middle, .next turned before, after⟩
  · rintro ⟨middle, before, after⟩
    exact before.append after

/-- What holds of every exchange that the surroundings take part in holds of a whole trace. -/
theorem Passes.forall_mem {holds : Exchange → Prop}
    (each : ∀ state exchange later, turn state exchange later → holds exchange)
    (passes : Passes turn state trace last) : ∀ exchange ∈ trace, holds exchange := by
  induction passes with
  | start => simp
  | next turned _ ih => exact List.forall_mem_cons.mpr ⟨each _ _ _ turned, ih⟩

/-- Wherever a plan thrives, what holds of the states holds there. -/
theorem Thrives.keeps {plan : Plan ρ} {ends : ρ → σ → Prop}
    (thrives : plan.Thrives env ends state) : env.keeps state := by
  cases plan with
  | done | ask | starved => exact thrives.1

/-- One plan after another thrives, if the second one does wherever the first one ends. -/
theorem Thrives.bind {plan : Plan α} {next : α → Plan β} {middle : α → σ → Prop}
    {ends : β → σ → Prop} (first : plan.Thrives env middle state)
    (second : ∀ value later, middle value later → (next value).Thrives env ends later) :
    (plan.bind next).Thrives env ends state := by
  -- The induction follows the first plan to its end, where the second one takes over.
  induction plan generalizing state with
  | done value => exact second value state first.2
  | ask call rest ih =>
    obtain ⟨kept, answered, goesOn⟩ := first
    exact ⟨kept, answered, fun reply later turned => ih reply (goesOn reply later turned)⟩
  | starved => exact first

/-- However far a plan that thrives is followed, it goes on thriving. -/
theorem Thrives.reaches {plan left : Plan ρ} {ends : ρ → σ → Prop}
    (thrives : plan.Thrives env ends state) (reaches : plan.Reaches trace left)
    (passes : Passes env.turn state trace last) : left.Thrives env ends last := by
  -- The trace says which of the answers was given each time.
  induction reaches generalizing state with
  | start plan =>
    cases passes
    exact thrives
  | ask call next reply trace left more ih =>
    cases passes with
    | next turned rest => exact ih (thrives.2.2 _ _ turned) rest

/-- What it ends with is as agreed. -/
theorem Thrives.runs {plan : Plan ρ} {ends : ρ → σ → Prop} {result : ρ}
    (thrives : plan.Thrives env ends state) (runs : plan.Runs trace result)
    (passes : Passes env.turn state trace last) : ends result last :=
  (thrives.reaches runs.reaches passes).2

/-- A plan that thrives can be run to its end, if its surroundings are live. -/
theorem Thrives.exists_run {plan : Plan ρ} {ends : ρ → σ → Prop}
    (thrives : plan.Thrives env ends state) (live : env.isLive) :
    ∃ trace result last, plan.Runs trace result ∧ Passes env.turn state trace last := by
  -- Each question is answered, and the induction is on the plan, which cannot go on for ever.
  induction plan generalizing state with
  | done result => exact ⟨[], result, state, .done result, .start state⟩
  | ask call next ih =>
    obtain ⟨_, answered, goesOn⟩ := thrives
    obtain ⟨reply, later, turned⟩ := answered live
    obtain ⟨trace, result, last, runs, passes⟩ := ih reply (goesOn reply later turned)
    exact ⟨_, result, last, .ask call next reply trace result runs, .next turned passes⟩
  | starved => exact absurd live thrives.2

/-- An exchange that is permitted, and the state that it leads to. -/
def Rules.Grants (rules : Rules σ) (state : σ) (exchange : Exchange) (later : σ) : Prop :=
  rules.permits state exchange.call ∧ rules.after? state exchange = some later

/-- However far a plan that observes rules is followed, as long as its answers lead anywhere, it has
asked nothing but what was permitted by then, and goes on so. -/
theorem Observes.reaches {rules : Rules σ} {plan left : Plan ρ} {ends : ρ → σ → Prop}
    (observes : plan.Observes rules ends state) (reaches : plan.Reaches trace left)
    (led : trace.foldlM rules.after? state = some last) :
    Passes rules.Grants state trace last ∧ left.Observes rules ends last := by
  -- What is permitted changes from state to state, so the induction is for any state.
  induction reaches generalizing state with
  | start plan =>
    cases led
    exact ⟨.start _, observes⟩
  | ask call next reply trace left more ih =>
    obtain ⟨middle, first, rest⟩ := Option.bind_eq_some_iff.mp led
    obtain ⟨passes, goesOn⟩ := ih (observes.2 reply middle first) rest
    exact ⟨.next ⟨observes.1, first⟩ passes, goesOn⟩

/-- Every answer leads somewhere. -/
def Rules.Total (rules : Rules σ) : Prop :=
  ∀ state exchange, ∃ later, rules.after? state exchange = some later

/-- Where every answer leads somewhere, a plan that observes rules can be followed however it is
answered. -/
theorem Observes.reaches_of_total {rules : Rules σ} (total : rules.Total) {plan left : Plan ρ}
    {ends : ρ → σ → Prop} (observes : plan.Observes rules ends state)
    (reaches : plan.Reaches trace left) :
    ∃ last, Passes rules.Grants state trace last ∧ left.Observes rules ends last := by
  -- No answer of the trace can lead nowhere.
  have leads : ∀ (trace : List Exchange) state, ∃ last,
      trace.foldlM rules.after? state = some last := by
    intro trace
    induction trace with
    | nil => exact fun state => ⟨state, rfl⟩
    | cons exchange rest ih =>
      intro state
      obtain ⟨middle, first⟩ := total state exchange
      obtain ⟨last, further⟩ := ih middle
      exact ⟨last, Option.bind_eq_some_iff.mpr ⟨middle, first, further⟩⟩
  obtain ⟨last, led⟩ := leads trace state
  exact ⟨last, observes.reaches reaches led⟩

/-- A plan that may not go beyond its allowance comes to an end, if every answer leads somewhere. -/
theorem Observes.comesToAnEnd {rules : Rules σ} (total : rules.Total) {plan : Plan ρ}
    {ends : ρ → σ → Prop} (observes : plan.Observes rules ends state)
    (bounded : ¬ rules.boundless) : plan.Ends := by
  -- By induction on the plan: the rules lead somewhere with every answer, so the rest is observed
  -- too.
  induction plan generalizing state with
  | done result => trivial
  | ask call next ih =>
    intro reply
    obtain ⟨later, led⟩ := total state ⟨call, reply⟩
    exact ih reply (observes.2 reply later led)
  | starved => exact bounded observes

/-- A plan thrives where whatever it may ask is answered and changes nothing. In live surroundings
it has to come to an end by itself. -/
theorem Confined.thrives {plan : Plan ρ} {allowed : Call → Prop} {boundless : Prop}
    {kept : ρ → Prop} (confined : plan.Confined allowed boundless kept)
    (keeps : env.keeps state) (ends : env.isLive → plan.Ends)
    (answered : ∀ call, allowed call → ∃ reply later, env.turn state ⟨call, reply⟩ later)
    (unmoved : ∀ call reply later, allowed call → env.turn state ⟨call, reply⟩ later →
      later = state) :
    plan.Thrives env (fun result later => kept result ∧ later = state) state := by
  -- The induction is on the plan, and the state does not move while it is asked.
  induction plan with
  | done result => exact ⟨keeps, confined, rfl⟩
  | ask call next ih =>
    refine ⟨keeps, fun _ => answered call confined.1, fun reply later turned => ?_⟩
    rw [unmoved call reply later confined.1 turned]
    exact ih reply (confined.2 reply () rfl) fun live => ends live reply
  | starved => exact ⟨keeps, ends⟩

end BatchFlow.Plan
