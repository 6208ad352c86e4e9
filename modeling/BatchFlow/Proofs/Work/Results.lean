import BatchFlow.Proofs.Router.Walk
import BatchFlow.Proofs.Work.Yields

/-! What work may come to, if it does come to a result. A node that is applied always comes to an
end, and responds with what its role makes of the message. -/

namespace BatchFlow

open Plan (Exchange)

variable {honest : Exchange → Prop}

/-- With honest answers to be had, a plan that comes to an end with them has a run. -/
theorem Plan.Yields.exists_run {ρ : Type} {plan : Plan ρ} {ends : ρ → Prop}
    (answers : (call : Call) → call.Reply) (given : ∀ call, honest ⟨call, answers call⟩)
    (yields : plan.Yields honest ends) : ∃ trace result, plan.Runs trace result := by
  induction plan with
  | done result => exact ⟨[], result, .done result⟩
  | ask call next ih =>
    -- Any honest answer will do, so the given one is taken each time.
    obtain ⟨trace, result, runs⟩ := ih (answers call) (yields (answers call) (given call))
    exact ⟨_, result, .ask call next _ trace result runs⟩
  | starved => exact yields.elim

namespace Work

variable {σ α β : Type}

/-- Answered honestly, the work comes to an end whatever state it begins in, and if that is a
result, the result is as agreed. -/
def Leads (honest : Exchange → Prop) (work : Work σ α) (ends : α → Prop) : Prop :=
  ∀ state, (work state).Yields honest fun ended => ∀ value, ended.2 = .ok value → ends value

/-- Bounds that exclude nothing, but for going on without end. -/
def Bounds.any : Bounds := ⟨fun _ => True, fun _ => True, False⟩

/-- Bounds that exclude nothing let everything be asked for a node. -/
theorem Bounds.any_open : any.Open := ⟨fun _ _ => trivial, fun _ => trivial⟩

/-- A result that is there already is as agreed if it is. -/
theorem leads_pure {value : α} {ends : α → Prop} (agreed : ends value) :
    (pure value : Work σ α).Leads honest ends := by
  intro state result same
  cases same
  exact agreed

/-- Abandoned work has no result that could be other than agreed. -/
theorem leads_abandon {failure : RouteFailure} {ends : α → Prop} :
    (abandon failure : Work σ α).Leads honest ends := by
  intro state result same
  cases same

/-- A question leads to its answer. -/
theorem leads_call {question : Call} {ends : question.Reply → Prop}
    (agreed : ∀ reply, honest ⟨question, reply⟩ → ends reply) :
    (call question : Work σ question.Reply).Leads honest ends := by
  intro state reply given result same
  cases same
  exact agreed reply given

/-- One piece of work after another leads to what the second one makes of the result of the first.
-/
theorem Leads.bind {work : Work σ α} {next : α → Work σ β} {middle : α → Prop} {ends : β → Prop}
    (first : work.Leads honest middle)
    (second : ∀ value, middle value → (next value).Leads honest ends) :
    (work >>= next).Leads honest ends := by
  intro state
  refine Plan.Yields.bind (first state) fun ended kept => ?_
  obtain ⟨after, outcome⟩ := ended
  cases outcome with
  | ok value => exact second value (kept value rfl) after
  -- The second part is not begun, and there is no result.
  | error failure => exact fun _ same => by cases same

/-- Work that begins with a question goes on from any honest answer. -/
theorem leads_call_bind {question : Call} {next : question.Reply → Work σ β} {ends : β → Prop}
    (further : ∀ reply, honest ⟨question, reply⟩ → (next reply).Leads honest ends) :
    (call question >>= next).Leads honest ends :=
  fun state reply given => further reply given state

/-- A report makes no difference to what comes after it. -/
theorem leads_log_bind {event : Event} {next : Unit → Work σ β} {ends : β → Prop}
    (further : (next ()).Leads honest ends) : (log event >>= next).Leads honest ends :=
  leads_call_bind fun _ _ => further

/-- Work that comes to an end in any case leads somewhere. -/
theorem Confined.leads {work : Work σ α} {bounds : Bounds}
    (confined : work.Confined bounds fun _ => True) (bounded : ¬ bounds.boundless) :
    work.Leads honest fun _ => True := by
  intro state
  -- Without fuel to run out of, the work is bounded from any state.
  have ends : (work state).Confined bounds.allowed False fun _ => True :=
    (confined state trivial).weaken (fun _ allowed => allowed) bounded fun _ _ => trivial
  exact ends.yields.weaken fun _ _ _ _ => trivial

/-- Going through elements comes to an end if the work on each of them does. -/
theorem leads_forEach {elements : List α} {work : α → Work σ Unit}
    (each : ∀ element ∈ elements, (work element).Leads honest fun _ => True) :
    (forEach elements work).Leads honest fun _ => True := by
  -- The work on the others begins in whatever state the first one leaves.
  induction elements with
  | nil => exact leads_pure trivial
  | cons element rest ih =>
    obtain ⟨first, others⟩ := List.forall_mem_cons.mp each
    exact first.bind fun _ _ => ih others

end Work

namespace Node

variable {node : Node} {message : Message} {good : Response → Prop} {made : StepResult → Prop}

/-- Results that are filed one after the other lead to a response that is as agreed, if each of them
is filed so. -/
theorem applyEach_leads {work : Item → Work Transaction StepResult} {items : List Item}
    (each : ∀ item ∈ items, (work item).Leads honest made)
    (files : ∀ response item result, good response → made result →
      (node.classify message response item result : Work Transaction Response).Leads honest good)
    {response : Response} (begun : good response) :
    (node.applyEach message work response items).Leads honest good := by
  -- The response grows from item to item, so the induction is for any response so far.
  induction items generalizing response with
  | nil => exact Work.leads_pure begun
  | cons item rest ih =>
    obtain ⟨first, others⟩ := List.forall_mem_cons.mp each
    exact first.bind fun result fine =>
      (files response item result begun fine).bind fun _ grown => ih others grown

/-- A node that is applied responds as it does when it works on the message. -/
theorem apply_leads
    (performs : (node.perform message : Work Transaction Response).Leads honest good) :
    (node.apply message).Leads honest good := by
  have free := Work.Bounds.any_open
  have shares : (node.shareMetadata message : Work Transaction Unit).Confined .any
      fun _ => True := node.shareMetadata_confined trivial
  have enlists : (node.enlist message).Confined .any fun _ => True := free.enlist trivial message
  -- The node is asked only once everything is shared and its resource takes part.
  refine (shares.leads False.elim).bind fun _ _ => (enlists.leads False.elim).bind fun used _ =>
    performs.bind fun response fine => ?_
  exact ((free.delist used).leads False.elim).bind fun _ _ =>
    Work.leads_log_bind (Work.leads_pure fine)

end Node

end BatchFlow
