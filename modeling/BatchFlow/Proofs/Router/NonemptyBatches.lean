import BatchFlow.Proofs.Response.Merging
import BatchFlow.Proofs.Router.MessageContext
import BatchFlow.Proofs.Router.UnfinishedWalk

/-! Nothing empty is delivered in a walk. A node that is handed at least one item never returns an
empty batch, and so nothing empty is sent on, handed to a node or left at a leaf. -/

namespace BatchFlow

open Plan (Exchange)

/-- What holds of all batches on both sides, and still does when one is glued to another, holds of
all of them when the ones have been joined to the others. -/
theorem Joining.forall_mem_foldl {β κ : Type} [DecidableEq κ] {joining : Joining β κ}
    {holds : β → Prop} (glued : ∀ last batch, holds last → holds (joining.glue last batch))
    {others start : List β} (all : ∀ batch ∈ start, holds batch)
    (further : ∀ batch ∈ others, holds batch) :
    ∀ joined ∈ others.foldl joining.join start, holds joined := by
  induction others generalizing start with
  | nil => exact all
  -- The start grows by one batch after the other, each with what holds of them all.
  | cons batch rest ih =>
    obtain ⟨first, later⟩ := List.forall_mem_cons.mp further
    exact ih (Joining.forall_mem_join all first fun last held _ => glued last batch held) later

namespace Response

/-- Every batch of a response holds an item. -/
structure Filled (response : Response) : Prop where
  discards : ∀ batch ∈ response.discards, batch.items ≠ []
  errors : ∀ batch ∈ response.errors, batch.errors ≠ []

namespace Filled

variable {response other : Response}

/-- The empty response has no batches at all. -/
theorem empty : Response.empty.Filled := ⟨nofun, nofun⟩

/-- A discard batch does not become empty when another one is glued to it. -/
theorem glue_discards (last batch : DiscardBatch) (nonempty : last.items ≠ []) :
    (byReason.glue last batch).items ≠ [] :=
  List.append_ne_nil_of_left_ne_nil nonempty _

/-- Nor does an error batch. -/
theorem glue_errors (last batch : ErrorBatch) (nonempty : last.errors ≠ []) :
    (byKind.glue last batch).errors ≠ [] :=
  List.append_ne_nil_of_left_ne_nil nonempty _

/-- The output is not kept in batches. -/
theorem addOutput (filled : response.Filled) (items : List Item) :
    (response.addOutput items).Filled :=
  ⟨filled.discards, filled.errors⟩

/-- Batches of a response that is merged with another one lose no items. -/
theorem merge (filled : response.Filled) (also : other.Filled) : (response.merge other).Filled where
  discards := by
    rw [Response.merge, joinDiscard_eq]
    exact Joining.forall_mem_foldl glue_discards filled.discards also.discards
  errors := by
    rw [Response.merge, joinError_eq]
    exact Joining.forall_mem_foldl glue_errors filled.errors also.errors

/-- An item that is discarded makes a batch of one, or joins another. -/
theorem addDiscard (filled : response.Filled) (item : Item) (reason : String) :
    (response.addDiscard [item] reason).Filled := by
  rw [← merge_addDiscard]
  exact filled.merge ⟨by simp [Response.addDiscard, Response.empty, joinDiscard], nofun⟩

/-- An error that is raised for at least one item is no empty batch. -/
theorem addError (filled : response.Filled) {items : List Item} (nonempty : items ≠ [])
    (cause : Condition) (origin worker : String) :
    (response.addError (.ofItems items cause origin worker)).Filled := by
  -- To add is to merge with a response that has this batch only.
  rw [← merge_addError]
  refine filled.merge ⟨nofun, ?_⟩
  simpa [Response.addError, Response.empty, joinError, ErrorBatch.ofItems] using nonempty

/-- Where none of the responses to several applications has an empty batch, their joint one has
none. -/
theorem joined {responses : List Response} (all : ∀ response ∈ responses, response.Filled) :
    (Response.joined responses).Filled := by
  have general : ∀ start : Response, start.Filled → (responses.foldl .merge start).Filled := by
    induction responses with
    | nil => exact fun _ begun => begun
    | cons first rest ih =>
      obtain ⟨filled, others⟩ := List.forall_mem_cons.mp all
      exact fun _ begun => ih others _ (begun.merge filled)
  -- A single response is taken as it is, and several are merged from the empty one.
  unfold Response.joined
  split
  · exact all _ (by simp)
  · exact general _ empty

/-- What such a response sends on its way holds items: an output without any is no parcel. -/
theorem parcels (filled : response.Filled) : ∀ parcel ∈ response.parcels, parcel.items ≠ [] := by
  intro parcel made
  simp only [Response.parcels, List.mem_append, List.mem_map] at made
  -- An output is sent only if there is one, and the other batches are not empty anyway.
  rcases made with output | ⟨batch, member, rfl⟩ | ⟨batch, member, rfl⟩
  · split at output
    · cases output
    · rename_i nonempty
      cases List.mem_singleton.mp output
      simpa [Parcel.items] using nonempty
  · exact filled.discards batch member
  · simpa [Parcel.items] using filled.errors batch member

end Filled

end Response

namespace Node

variable {node : Node} {message part : Message} {honest : Exchange → Prop}

/-- Whatever the result for an item is, filing it adds no empty batch. -/
theorem classify_filled (response : Response) (item : Item) (result : StepResult)
    (filled : response.Filled) :
    (node.classify message response item result : Work Transaction Response).Leads honest
      Response.Filled := by
  -- Outputs are left without a batch, and any other result makes a batch of one item.
  cases result with
  | ok outputs => exact Work.leads_pure (filled.addOutput outputs)
  | error rejection =>
    cases rejection with
    | discarded reason =>
      exact Work.leads_log_bind (Work.leads_pure (filled.addDiscard item reason))
    | failed cause =>
      unfold classify
      dsimp only
      split
      · exact Work.leads_abandon
      · exact Work.leads_log_bind (Work.leads_pure
          (filled.addError (List.cons_ne_nil item []) cause node.id message.worker))

/-- A node that works on at least one item responds without empty batches. -/
theorem perform_filled (nonempty : message.data ≠ []) :
    (node.perform message : Work Transaction Response).Leads honest Response.Filled := by
  -- Each item has a result, and a result adds no empty batch.
  have applies : ∀ {work : Item → Work Transaction StepResult},
      (∀ item ∈ message.data, (work item).Leads honest fun _ => True) →
        (node.applyEach message work .empty message.data).Leads honest Response.Filled :=
    fun each => applyEach_leads each
      (fun response item result filled _ => classify_filled response item result filled) .empty
  unfold perform
  split
  · -- A step and an enriching node go through the items, and a sink takes them in one delivery.
    exact Work.leads_call_bind fun _ _ =>
      applies fun item _ => Work.leads_call fun _ _ => trivial
  · refine Work.leads_call_bind fun reply _ => ?_
    cases reply with
    | ok answer =>
      cases answer with
      | none => exact Work.leads_pure .empty
      | some item => exact Work.leads_pure (Response.Filled.empty.addOutput [item])
    | error cause =>
      -- All items of the message have failed, so there is at least one.
      dsimp only
      split
      · exact Work.leads_abandon
      · exact Work.leads_log_bind (Work.leads_pure
          (Response.Filled.empty.addError nonempty cause node.id message.worker))
  · exact applies fun item member => (node.enrich_confined _ _ member).leads False.elim

/-- A response to at least one item has no empty batches. -/
theorem apply_filled {before after : Transaction} {trace : List Exchange} {response : Response}
    (nonempty : message.data ≠ [])
    (runs : (node.apply message before).Runs trace (after, .ok response)) : response.Filled := by
  have leads : (node.apply message).Leads (fun _ => True) Response.Filled :=
    apply_leads (perform_filled nonempty)
  exact (leads before).runs runs (fun _ _ => trivial) response rfl

/-- A part of a message that is not empty is not empty. -/
theorem parts_filled (nonempty : message.data ≠ []) (among : part ∈ node.parts message) :
    part.data ≠ [] := by
  rcases mem_parts among with rfl | ⟨item, member, rfl⟩
  · exact nonempty
  · exact List.cons_ne_nil item []

/-- A node that does not take batches gets one item at a time. -/
theorem parts_single (nonempty : message.data ≠ []) (single : node.acceptsBatches = false)
    (among : part ∈ node.parts message) : ∃ item, part.data = [item] := by
  -- The parts have one item each, in order.
  have listed : part.data ∈ (node.parts message).map (·.data) := List.mem_map_of_mem among
  rw [parts_items single nonempty] at listed
  obtain ⟨item, _, same⟩ := List.mem_map.mp listed
  exact ⟨item, same.symm⟩

end Node

namespace Router

variable {router : Router} {top message : Message} {visits : List Visit} {trail : List String}
  {origin : String} {parcel : Parcel} {traversal : Traversal}

/-- Where a walk sets out with something, everything that is sent holds something. -/
theorem Sent.filled (nonempty : top.data ≠ [])
    (sent : router.Sent top visits trail origin parcel message) : parcel.items ≠ [] := by
  induction sent with
  | departed => exact nonempty
  | @returned trail origin parcel next message node applications sent _ _ applied responded _ made
      ih =>
    have handed : message.data ≠ [] := sent.brings.data ▸ ih
    refine Response.Filled.parcels (.joined fun response member => ?_) _ made
    obtain ⟨application, listed, rfl⟩ := List.mem_map.mp member
    obtain ⟨before, after, runs⟩ := responded application listed
    have part : application.message ∈ node.parts message :=
      applied ▸ List.mem_map_of_mem listed
    -- The response is joined from those to the parts of the message, none of which was empty.
    exact Node.apply_filled (Node.parts_filled handed part) runs

/-- Nothing in a traversal is empty: no message that a node was applied to, no batch that it
responded with, nothing that was sent on its way, and no batch that stopped at a leaf. Whatever was
delivered was sent, and a node that does not take batches got it one item at a time. -/
structure Substantial (router : Router) (top : Message) (traversal : Traversal) : Prop
    extends router.Accounted top traversal where
  received : ∀ visit ∈ traversal.visits, visit.message.data ≠ []
  single : ∀ visit ∈ traversal.visits, ∀ node, visit.trail.getLast? = some node.id →
    router.nodes.get? node.id = some node → node.acceptsBatches = false →
      ∃ item, visit.message.data = [item]
  returned : ∀ visit ∈ traversal.visits, ∀ response, visit.result = .ok response → response.Filled
  sent : ∀ {trail origin parcel message},
    router.Sent top traversal.visits trail origin parcel message →
      parcel.items ≠ [] ∧ message.data = parcel.items
  outputs : ∀ batch ∈ traversal.outputs, batch.items ≠ []
  discards : ∀ batch ∈ traversal.discards, batch.items ≠ []

/-- Leaves stay without empty batches, since nothing empty is sent to them. -/
theorem leaves_chronicle (router : Router) (nonempty : top.data ≠ []) :
    router.Chronicle top fun _ traversal =>
      (∀ batch ∈ traversal.outputs, batch.items ≠ []) ∧
        ∀ batch ∈ traversal.discards, batch.items ≠ [] where
  aside held _ _ _ := held
  visited held _ _ _ _ _ _ _ _ _ _ := held
  stopped {past traversal} held {trail origin parcel message} sent _ := by
    -- Outputs and discards stop at leaves, and errors never do.
    have filled := sent.filled nonempty
    cases parcel with
    | output items =>
      exact ⟨List.forall_mem_append.mpr ⟨held.1, by simpa [Parcel.items] using filled⟩, held.2⟩
    | discard batch =>
      exact ⟨held.1, List.forall_mem_append.mpr ⟨held.2, by simpa [Parcel.items] using filled⟩⟩
    | error batch => exact held

/-- A visit is one with items, and a node that takes one at a time is visited with one. -/
theorem Delivered.substantial {visit : Visit} (nonempty : top.data ≠ [])
    (delivered : router.Delivered top visits trail origin parcel visit) :
    visit.message.data ≠ [] ∧
    (∀ node, visit.trail.getLast? = some node.id →
      router.nodes.get? node.id = some node → node.acceptsBatches = false →
        ∃ item, visit.message.data = [item]) ∧
    ∀ response, visit.result = .ok response → response.Filled := by
  cases delivered with
  | of hands applied =>
    obtain ⟨message, sent, among⟩ := hands.sent
    have handed : message.data ≠ [] := sent.brings.data ▸ sent.filled nonempty
    refine ⟨Node.parts_filled handed among, fun node last registered single => ?_, ?_⟩
    · -- The node that is registered under the name is the one that was visited.
      rw [List.getLast?_concat] at last
      rw [← Option.some.inj last] at registered
      cases hands.registered.symm.trans registered
      exact Node.parts_single handed single among
    · rintro response rfl
      exact Node.apply_filled (Node.parts_filled handed among) applied

/-- Where everything comes from what was sent, and nothing empty stopped at a leaf, nothing is empty
at all. -/
theorem Accounted.substantial (accounted : router.Accounted top traversal)
    (nonempty : top.data ≠ []) (outputs : ∀ batch ∈ traversal.outputs, batch.items ≠ [])
    (discards : ∀ batch ∈ traversal.discards, batch.items ≠ []) :
    router.Substantial top traversal where
  toAccounted := accounted
  received visit noted := by
    obtain ⟨_, _, _, delivered⟩ := accounted.visits visit noted
    exact (delivered.substantial nonempty).1
  single visit noted := by
    obtain ⟨_, _, _, delivered⟩ := accounted.visits visit noted
    exact (delivered.substantial nonempty).2.1
  returned visit noted := by
    obtain ⟨_, _, _, delivered⟩ := accounted.visits visit noted
    exact (delivered.substantial nonempty).2.2
  sent sent := ⟨sent.filled nonempty, sent.brings.data⟩
  outputs := outputs
  discards := discards

/-- What a walk returns as its outputs and discards is what stopped at leaves on the way. -/
theorem walk_leaves {depth : Nat} {trace : List Exchange} {results : Terminal}
    (runs : (router.walk depth message).Runs trace (traversal, .ok results)) :
    results.outputs = traversal.outputs ∧ results.discards = traversal.discards := by
  -- The walk sets out with no leaves, so what was added is all there are.
  obtain ⟨id, start, middle, walked, working, closing, rfl, traverses, resolves⟩ := walk_runs runs
  obtain ⟨_, adds, outputs, discards, _⟩ := resolve_adds resolves
  rw [outputs, discards, adds.outputs, adds.discards]
  exact ⟨(List.append_nil _).symm, (List.append_nil _).symm⟩

/-- A walk with a message, which opens its transaction first, has nothing empty in it, and no batch
of its results is empty. -/
def HasSubstance (router : Router) (message : Message) (trace : List Exchange)
    (traversal : Traversal) (result : Except RouteFailure Terminal) : Prop :=
  ∃ id rest, trace = ⟨.openTransaction, id⟩ :: rest ∧
    router.Substantial { message with transaction := some id } traversal ∧
    ∀ results, result = .ok results → ∀ batch ∈ results.outputs ++ results.discards,
      batch.items ≠ []

/-- A walk that ends and set out with at least one item has nothing empty in it. -/
theorem hasSubstance_of_runs {depth : Nat} {trace : List Exchange}
    {result : Except RouteFailure Terminal} (nonempty : message.data ≠ [])
    (runs : (router.walk depth message).Runs trace (traversal, result)) :
    router.HasSubstance message trace traversal result := by
  obtain ⟨id, rest, rfl, keeps⟩ := walk_keeps runs
  -- What is visited comes from what was sent, and what stopped was not empty.
  have accounted := keeps _ (accounted_chronicle router _) (accounted_opened router _ id)
  obtain ⟨outputs, discards⟩ := keeps _ (leaves_chronicle router nonempty)
    ⟨by simp [Traversal.opened], by simp [Traversal.opened]⟩
  refine ⟨id, rest, rfl, accounted.substantial nonempty outputs discards, ?_⟩
  rintro results rfl batch member
  obtain ⟨sameOutputs, sameDiscards⟩ := walk_leaves runs
  rw [sameOutputs, sameDiscards] at member
  exact (List.mem_append.mp member).elim (outputs batch) (discards batch)

/-- Nothing empty is delivered in a walk with at least one item, however it ends: no node is applied
to an empty message, no batch that is sent along any route is empty, no batch that stops at a leaf
is, and a node that does not take batches gets exactly one item each time. Nor is anything empty
delivered up to any moment of a walk, even of one that would never end, since it is a moment of a
walk that does. -/
theorem walk_delivers_nothing_empty {router : Router} {depth : Nat} {message : Message}
    (nonempty : message.data ≠ []) :
    (∀ {trace traversal result}, (router.walk depth message).Runs trace (traversal, result) →
      router.HasSubstance message trace traversal result) ∧
    ∀ {trace rest}, (router.walk depth message).Reaches trace rest →
      ∃ more traversal result,
        (router.walk (depth + 1) message).Runs (trace ++ more) (traversal, result) ∧
        router.HasSubstance message (trace ++ more) traversal result := by
  refine ⟨hasSubstance_of_runs nonempty, fun reaches => ?_⟩
  -- A walk that may go on is part of one that has fuel for one node more.
  obtain ⟨more, traversal, result, runs⟩ := walk_completes reaches
  exact ⟨more, traversal, result, runs, hasSubstance_of_runs nonempty runs⟩

/-- A strainer that takes one item at a time and is fed whatever it lets through, and a log of what
it cannot make anything of. -/
def strainer : Router where
  topology := ⟨[("inbox", ⟨["strainer"], [], []⟩),
    ("strainer", ⟨["strainer"], [], [⟨.root, ["log"]⟩]⟩)], [], ["inbox"], ["strainer", "log"],
    .builtIn⟩
  nodes := .ofList [{ Node.plain "strainer" .step "strainer" with acceptsBatches := false },
    .plain "log" .sink "memory"]

/-- Surroundings in which the strainer keeps back what is null, and makes it of truth values. -/
def straining : Plan.Surroundings
  | _, .applyStep _ .null => .error (.discarded "null")
  | _, .applyStep _ (.bool _) => .ok [.null]
  | _, .applyStep .. => .error (.failed (.dataFormat "neither"))
  | _, call => Plan.uneventful call

/-- One item of each sort. -/
def assorted : Message := ⟨"inbox", [.null, .bool true, .nat 1], none, "", none, none, 0⟩

/-- Of three items the strainer keeps one back, lets one through to itself and fails on one. There
are five applications and two leaves, and nothing empty anywhere. Nor is there from the first
question on in a walk that may not go so deep. -/
theorem walk_delivers_nothing_empty_strainer :
    ∃ trace traversal result,
      (strainer.walk 2 assorted).Runs trace (traversal, result) ∧
      (traversal.visits.length = 5 ∧ traversal.discards.length = 2) ∧
      strainer.HasSubstance assorted trace traversal result ∧
      ∃ rest, (strainer.walk 1 assorted).Reaches [⟨.openTransaction, (7 : Nat)⟩] rest ∧
        ∃ more traversal result, strainer.HasSubstance assorted
          (⟨.openTransaction, (7 : Nat)⟩ :: more) traversal result := by
  obtain ⟨trace, ⟨traversal, result⟩, runs, checked⟩ := Plan.exists_run straining
    (strainer.walk 2 assorted)
    (fun ended => ended.2.1.visits.length == 5 && ended.2.1.discards.length == 2) (by decide)
  have counted : traversal.visits.length = 5 ∧ traversal.discards.length = 2 := by
    simpa using checked
  have nonempty : assorted.data ≠ [] := List.cons_ne_nil _ _
  -- The theorem is applied to the whole walk, and to one that was cut off.
  have substance := (walk_delivers_nothing_empty nonempty).1 runs
  have opened : ∃ rest, (strainer.walk 1 assorted).Reaches
      [⟨.openTransaction, (7 : Nat)⟩] rest := ⟨_, .ask _ _ _ [] _ (.start _)⟩
  obtain ⟨rest, reaches⟩ := opened
  obtain ⟨more, last, ended, _, also⟩ := (walk_delivers_nothing_empty nonempty).2 reaches
  exact ⟨trace, traversal, result, runs, counted, substance, rest, reaches, more, last, ended, also⟩

end Router

end BatchFlow
