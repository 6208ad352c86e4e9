import BatchFlow.Node.Apply
import BatchFlow.Proofs.Plan.Observes
import BatchFlow.Proofs.Work.Contract

/-! What a node asks while it is applied: nothing of other nodes, and nothing of resources but to
let the one that its collaborator offers take part. -/

namespace BatchFlow

open Plan (Exchange)

/-- The node whose collaborator a question is put to, if it is part of being applied. -/
def Call.applied? : Call → Option String
  | .nodeResource node | .shareMetadata node _ | .resetStep node _ | .applyStep node _
  | .deliver node _ | .parametersFor node _ | .readRecords node .. | .enrichItem node .. =>
    some node
  | _ => none

/-- A question that is part of working on a message: it is put to the collaborator and is about what
the message brings along, or it is a report. -/
def Call.Serves (node : String) (message : Message) : Call → Prop
  | .resetStep id context => id = node ∧ context = message.context
  | .applyStep id item | .parametersFor id item | .enrichItem id item _ =>
    id = node ∧ item ∈ message.data
  | .readRecords id .. => id = node
  | .deliver id items => id = node ∧ items = message.data
  | .log _ => True
  | _ => False

/-- Apart from the reports, such questions are put to the collaborator. -/
theorem Call.Serves.own {node : String} {message : Message} {call : Call}
    (serves : call.Serves node message) :
    call.applied? = some node ∨ ∃ event, call = .log event := by
  -- Every other question for a message names the node that it is put to.
  cases call with
  | log event => exact .inr ⟨event, rfl⟩
  | resetStep | applyStep | parametersFor | enrichItem | deliver =>
    exact .inl (congrArg some serves.1)
  | readRecords => exact .inl (congrArg some serves)
  | _ => exact serves.elim

namespace Work

variable {σ α : Type}

/-- Whatever comes of the work, it leaves the state alone and asks nothing but what is allowed. -/
structure AsksOnly (work : Work σ α) (allowed : Call → Prop) : Prop where
  asked : ∀ {state trace after result}, (work state).Runs trace (after, result) →
    ∀ exchange ∈ trace, allowed exchange.call
  alone : ∀ {state trace after result}, (work state).Runs trace (after, result) → after = state

variable {allowed : Call → Prop}

/-- Such work keeps every fact that the allowed questions keep. -/
theorem AsksOnly.keeps {work : Work σ α} (only : work.AsksOnly allowed) {fact : Fact σ}
    (kept : ∀ {past state} (trace : List Exchange), (∀ exchange ∈ trace, allowed exchange.call) →
      fact past state → fact (past ++ trace) state) : work.Keeps fact where
  ends held runs := by
    -- Since the state is the same, only the trace has to be accounted for.
    rw [only.alone runs]
    exact kept _ (only.asked runs) held
  stops held runs := by
    rw [only.alone runs]
    exact kept _ (only.asked runs) held

/-- Work that keeps within bounds, whatever is known of its state, is of this sort. -/
theorem asksOnly_of_confined {work : Work σ α} {bounds : Bounds}
    (confined : ∀ fact, work.Confined bounds fact) : work.AsksOnly bounds.allowed where
  asked runs := ((confined (fun _ => True) _ trivial).runs runs).1
  -- That the state is a certain one is a fact like any other.
  alone {state} _ _ _ runs := ((confined (· = state) state rfl).runs runs).2.1

end Work

namespace Node

variable {σ : Type} {fact : σ → Prop}

/-- What a node may do with a message: question its own collaborator about it, report, and come to
an end, which may be a fatal one. -/
def bounds (node : Node) (message : Message) : Work.Bounds :=
  ⟨Call.Serves node.id message, fun failure => ∃ cause, failure = .fatal node.id cause, False⟩

/-- A node may report whatever it has to. -/
theorem confined_log (node : Node) (message : Message) (event : Event) :
    (Work.log event : Work σ Unit).Confined (node.bounds message) fact :=
  Work.confined_call trivial

/-- To classify a result it may report it or abandon the work. -/
theorem classify_confined (node : Node) (message : Message) (response : Response) (item : Item)
    (result : StepResult) :
    (node.classify message response item result : Work σ Response).Confined (node.bounds message)
      fact := by
  -- Neither way of going wrong asks a collaborator; a report is the most there is.
  cases result with
  | ok outputs => exact Work.confined_pure
  | error rejection =>
    cases rejection with
    | discarded reason => exact (node.confined_log _ _).bind fun _ => Work.confined_pure
    | failed cause =>
      unfold classify
      dsimp only
      split
      · -- A fatal failure abandons the traversal at once.
        exact Work.confined_abandon ⟨cause, rfl⟩
      · -- Any other failure is reported and kept with the response.
        exact (node.confined_log _ _).bind fun _ => Work.confined_pure

/-- What it does with each of the items it may do with all of them. -/
theorem applyEach_confined (node : Node) (message : Message) {work : Item → Work σ StepResult}
    (response : Response) {items : List Item}
    (each : ∀ item ∈ items, (work item).Confined (node.bounds message) fact) :
    (node.applyEach message work response items).Confined (node.bounds message) fact := by
  -- The response grows from item to item, so the induction is for any response so far.
  induction items generalizing response with
  | nil => exact Work.confined_pure
  | cons item rest ih =>
    obtain ⟨first, others⟩ := List.forall_mem_cons.mp each
    exact first.bind fun result =>
      (node.classify_confined message response item result).bind fun response =>
        ih response others

/-- It may report that there are no parameters. -/
theorem reportMissing_confined (node : Node) (message : Message) (parameters : Option Item) :
    (node.reportMissing parameters : Work σ Unit).Confined (node.bounds message) fact := by
  unfold reportMissing
  split
  · exact node.confined_log _ _
  · exact Work.confined_pure

/-- To enrich an item it questions its own collaborator about that item, which is one of the
message. -/
theorem enrich_confined (node : Node) {message : Message} (reader : String) (timeout : Duration)
    {item : Item} (member : item ∈ message.data) :
    (node.enrich reader timeout item : Work σ StepResult).Confined (node.bounds message) fact := by
  -- Parameters come first, a report if there are none, and then the records.
  refine Work.Confined.bind (Work.confined_call ⟨rfl, member⟩) fun parameters => ?_
  refine (node.reportMissing_confined message parameters).bind fun _ => ?_
  refine Work.Confined.bind (Work.confined_call rfl) fun outcome => ?_
  cases outcome with
  | failed cause => exact Work.confined_pure
  | timedOut => exact Work.confined_pure
  | records records =>
    -- What was read is reported and handed to the collaborator with the item.
    exact (node.confined_log _ _).bind fun _ => Work.confined_call ⟨rfl, member⟩

/-- To deliver a message it hands the items to its own collaborator. -/
theorem deliver_confined (node : Node) (message : Message) :
    (node.deliver message : Work σ Response).Confined (node.bounds message) fact := by
  -- A sink takes the whole message in one go.
  refine Work.Confined.bind (Work.confined_call ⟨rfl, rfl⟩) fun delivered => ?_
  cases delivered with
  | ok reply => cases reply <;> exact Work.confined_pure
  | error cause =>
    dsimp only
    split
    · exact Work.confined_abandon ⟨cause, rfl⟩
    · exact (node.confined_log _ _).bind fun _ => Work.confined_pure

/-- Whatever its role, a node that works on a message keeps within its bounds. -/
theorem perform_confined (node : Node) (message : Message) :
    (node.perform message : Work σ Response).Confined (node.bounds message) fact := by
  unfold perform
  -- The three roles differ in what they ask for each item, or for all of them at once.
  split
  · exact Work.Confined.bind (Work.confined_call ⟨rfl, rfl⟩) fun _ =>
      node.applyEach_confined message _ fun _ member => Work.confined_call ⟨rfl, member⟩
  · exact node.deliver_confined message
  · exact node.applyEach_confined message _ fun _ => node.enrich_confined _ _

/-- Whatever its role, a node that works on a message asks only what is part of that. -/
theorem perform_asksOnly (node : Node) (message : Message) :
    (node.perform message : Work σ Response).AsksOnly (Call.Serves node.id message) :=
  Work.asksOnly_of_confined fun _ => node.perform_confined message

end Node

end BatchFlow
