import BatchFlow.Proofs.Node.Calls
import BatchFlow.Proofs.Topology.Routes
import BatchFlow.Router

/-! A walk goes from node to node, and what it may ask, how it may fail, how deep it may go and what
is kept of its account follows from what happens at each node that it reaches. -/

namespace BatchFlow

/-- A question about the transaction of a walk, or to nobody in particular. -/
def Call.isShared : Call → Bool
  | .log _ | .clock | .openTransaction | .beginWork _ | .commitWork _ | .rollbackWork .. => true
  | _ => false

namespace Transaction

variable {boundless : Prop}

/-- Whatever comes of enlisting a resource, nothing is asked but whether it can begin. -/
theorem enlist_confined (transaction : Transaction) (resource : Resource) :
    (transaction.enlist resource).Confined (·.isShared = true) boundless fun _ => True := by
  unfold enlist
  split
  · trivial
  · dsimp only
    split
    · trivial
    · -- The one question is whether the resource can begin, and a success is logged.
      refine ⟨rfl, fun reply _ _ => ?_⟩
      cases reply with
      | error cause => trivial
      | ok _ => exact ⟨rfl, fun _ _ _ => trivial⟩

/-- Rolling back one resource after the other asks only them, and reports. -/
theorem rollbackEach_confined (id : Nat) (cause : String) (resources : List Resource) :
    (rollbackEach id cause resources).Confined (·.isShared = true) boundless fun _ => True := by
  induction resources with
  | nil => trivial
  | cons resource rest ih =>
    refine ⟨rfl, fun reply _ _ => ?_⟩
    -- Whatever the resource answers, the rest of them are asked as well.
    cases reply with
    | error failure => exact ⟨rfl, fun _ _ _ => ih⟩
    | ok _ => exact ih

/-- Undoing a transaction rolls its resources back, and reports. -/
theorem undo_confined (transaction : Transaction) (cause : String) :
    (transaction.undo cause).Confined (·.isShared = true) boundless fun _ => True :=
  (rollbackEach_confined _ cause _).bind fun _ _ => ⟨rfl, fun _ _ _ => trivial⟩

/-- Committing one resource after the other asks only them, and reports. -/
theorem commitEach_confined (id : Nat) (resources : List Resource) :
    (commitEach id resources).Confined (·.isShared = true) boundless fun _ => True := by
  induction resources with
  | nil => trivial
  | cons resource rest ih =>
    refine ⟨rfl, fun reply _ _ => ?_⟩
    -- The first failure is the end of it.
    cases reply with
    | error cause => exact ⟨rfl, fun _ _ _ => trivial⟩
    | ok _ => exact ih

/-- Committing asks nobody but the resources. -/
theorem commit_confined (transaction : Transaction) :
    transaction.commit.Confined (·.isShared = true) boundless fun _ => True := by
  unfold commit
  split
  · trivial
  · dsimp only
    split
    · -- Somebody is not done yet.
      exact (undo_confined _ _).bind fun _ _ => trivial
    · refine (commitEach_confined _ _).bind fun outcome _ => ?_
      cases outcome with
      | error fault => exact (undo_confined _ _).bind fun _ _ => trivial
      | ok _ => exact ⟨rfl, fun _ _ _ => trivial⟩

/-- Rolling back asks nobody but the resources. -/
theorem rollback_confined (transaction : Transaction) (cause : String) :
    (transaction.rollback cause).Confined (·.isShared = true) boundless fun _ => True := by
  unfold rollback
  split
  · trivial
  · exact undo_confined _ cause

end Transaction

/-- Bounds within which a walk can deal with its transaction, and report what it does. -/
structure Work.Bounds.Open (bounds : Work.Bounds) : Prop where
  shared : ∀ call, call.isShared = true → bounds.allowed call
  faulty : ∀ fault, bounds.excused (.transaction fault)

/-- Bounds within which a node can be applied. -/
structure Node.Admitted (node : Node) (bounds : Work.Bounds) : Prop extends bounds.Open where
  own : ∀ call, call.applied? = some node.id → bounds.allowed call
  fatal : ∀ cause, bounds.excused (.fatal node.id cause)

variable {bounds : Work.Bounds}

/-- What is asked about a transaction is within open bounds. -/
theorem Plan.Confined.within {ρ : Type} {plan : Plan ρ} {ends : ρ → Prop}
    (confined : plan.Confined (·.isShared = true) bounds.boundless ends) (free : bounds.Open) :
    plan.Confined bounds.allowed bounds.boundless ends :=
  confined.weaken free.shared id fun _ kept => kept

namespace Work.Bounds.Open

variable {σ α : Type} {fact : σ → Prop} (free : bounds.Open)
include free

/-- Whatever a walk reports is within such bounds. -/
theorem log (event : Event) : (Work.log event : Work σ Unit).Confined bounds fact :=
  Work.confined_call (free.shared _ rfl)

/-- A step on the transaction that asks nothing else is within them, faults included. -/
theorem ofFaulty {step : σ → Plan (σ × Except TransactionFault α)}
    (confined : ∀ state,
      (step state).Confined (·.isShared = true) bounds.boundless fun _ => True) :
    (Work.ofFaulty step).Confined bounds fun _ => True :=
  Work.confined_ofFaulty (fun state => (confined state).within free) free.faulty

/-- Delisting a resource asks nothing. -/
theorem delist (used : Option Resource) :
    (Node.delist used).Confined bounds fun _ => True := by
  cases used with
  | none => exact Work.confined_pure
  | some resource => exact free.ofFaulty fun _ => trivial

/-- Enlisting what a node uses is within them, if the node may be asked for its resource. -/
theorem enlist {node : Node} (offers : bounds.allowed (.nodeResource node.id))
    (message : Message) : (node.enlist message).Confined bounds fun _ => True := by
  have offered : (node.offered : Work Transaction (Option Resource)).Confined bounds
      fun _ => True := by
    unfold Node.offered
    split
    · exact Work.confined_call offers
    · exact Work.confined_pure
  refine offered.bind fun resource => ?_
  -- Only a resource that is offered for a message in a transaction is enlisted.
  cases resource with
  | none => exact Work.confined_pure
  | some resource =>
    cases message.transaction with
    | none => exact Work.confined_pure
    | some id =>
      exact (free.ofFaulty fun transaction => transaction.enlist_confined resource).bind
        fun _ => Work.confined_pure

end Work.Bounds.Open

namespace Node

/-- What is left of applying a node to a message once the metadata has been shared. -/
def process (node : Node) (message : Message) : Work Transaction Response := do
  let enlisted ← node.enlist message
  let response ← node.perform message
  delist enlisted
  Work.log (.nodeApplied node.id message.data.length response.output.length
    response.discardCount response.errorCount)
  return response

/-- To apply a node is to share the metadata with it and then to process the message. -/
theorem apply_eq (node : Node) (message : Message) :
    node.apply message = (do node.shareMetadata message; node.process message) := rfl

/-- Sharing the metadata asks one question at most. -/
theorem shareMetadata_confined (node : Node) {message : Message}
    (shares : bounds.allowed (.shareMetadata node.id message.metadata)) :
    (node.shareMetadata message : Work Transaction Unit).Confined bounds fun _ => True := by
  unfold shareMetadata
  split
  · exact Work.confined_call shares
  · exact Work.confined_pure

/-- Bounds within which a node can work on a message that it shares the metadata of already. -/
structure Engages (node : Node) (message : Message) (bounds : Work.Bounds) : Prop
    extends bounds.Open where
  offers : bounds.allowed (.nodeResource node.id)
  serves : ∀ call, call.Serves node.id message → bounds.allowed call
  fatal : ∀ cause, bounds.excused (.fatal node.id cause)

namespace Engages

variable {node : Node} {message : Message} (engages : node.Engages message bounds)
include engages

/-- Processing a message keeps within bounds that let the node engage with it. -/
theorem process : (node.process message).Confined bounds fun _ => True := by
  -- The bounds of the node itself are narrower.
  have performs : (node.perform message : Work Transaction Response).Confined bounds
      fun _ => True :=
    (node.perform_confined message).weaken engages.serves
      (fun _ ⟨cause, same⟩ => same ▸ engages.fatal cause) False.elim
  refine (engages.enlist engages.offers message).bind fun used => performs.bind fun response => ?_
  exact (engages.delist used).bind fun _ => (engages.log _).bind fun _ => Work.confined_pure

end Engages

namespace Admitted

variable {node : Node} (admitted : node.Admitted bounds)
include admitted

/-- A node that is admitted may engage with any message. -/
theorem engages (message : Message) : node.Engages message bounds where
  toOpen := admitted.toOpen
  offers := admitted.own _ rfl
  -- What serves a message is put to the node, or is a report.
  serves call serves := by
    rcases serves.own with applied | ⟨event, rfl⟩
    · exact admitted.own call applied
    · exact admitted.shared _ rfl
  fatal := admitted.fatal

/-- A node that is applied keeps within bounds that admit it. -/
theorem apply (message : Message) : (node.apply message).Confined bounds fun _ => True := by
  exact (node.shareMetadata_confined (admitted.own _ rfl)).bind fun _ =>
    (admitted.engages message).process

end Admitted

end Node

namespace Router

/-- A destination that a node may hand something to, on one of its channels. -/
inductive Onward (router : Router) (node : Node) (destination : String) : Prop where
  | output (listed : destination ∈ router.topology.outputOf node.id)
  | discard (listed : destination ∈ router.topology.discardOf node.id)
  | error (kind : Kind) (listed : destination ∈ router.topology.errorDestinations node.id kind)

/-- What is needed for a node to be applied at the end of a trail: it is admitted, and whatever
comes of it can be noted. -/
structure Applies (bounds : Work.Bounds) (fact : Traversal → Prop) (trail : List String)
    (node : Node) : Prop where
  admitted : node.Admitted bounds
  noted : ∀ before after message result, fact before →
    after.visits = before.visits ++ [⟨trail, message, result⟩] → fact after

/-- What is needed at a node that a walk has come to: it can be applied, its unrouted errors are
excused, and the walk can go on from it. -/
structure Station (router : Router) (bounds : Work.Bounds) (fact : Traversal → Prop)
    (onward : List String → String → Prop) (trail : List String) (node : Node) : Prop
    extends Applies bounds fact trail node where
  stuck : ∀ kind text, node.bestEffort = false →
    router.topology.errorDestinations node.id kind = [] →
      bounds.excused (.unrouted node.id kind text)
  further : ∀ destination, router.Onward node destination → onward trail destination

/-- A walk whose way is known: `reach depth trail destination` says that it may come to a
destination along a trail, with some depth left. -/
structure Expedition (router : Router) (bounds : Work.Bounds) (fact : Traversal → Prop)
    (reach : Nat → List String → String → Prop) : Prop extends bounds.Open where
  /-- What is kept is about the visits only. -/
  account : ∀ before after : Traversal, after.visits = before.visits → fact before → fact after
  exhausted : ∀ trail destination, reach 0 trail destination → bounds.boundless
  lost : ∀ depth trail destination origin, reach (depth + 1) trail destination →
    router.nodes.get? destination = none → bounds.excused (.unknownDestination destination origin)
  station : ∀ depth trail destination node, reach (depth + 1) trail destination →
    router.nodes.get? destination = some node →
      router.Station bounds fact (reach depth) (trail ++ [node.id]) node

namespace Applies

variable {fact : Traversal → Prop} {trail : List String} {node : Node}
  (applies : Applies bounds fact trail node)
include applies

/-- A visit keeps within the bounds, and the account stays as it is to be. -/
theorem visit (message : Message) : (Router.visit trail node message).Confined bounds fact := by
  intro traversal held
  refine Plan.Confined.bind (applies.admitted.apply message traversal.transaction trivial)
    fun ended kept => ⟨?_, kept.2⟩
  -- Whatever comes of the application, the visit is noted.
  exact applies.noted traversal _ message ended.2 held rfl

/-- So do visits with one item after the other. -/
theorem visitEach (message : Message) (response : Response) (items : List Item) :
    (Router.visitEach trail node message response items).Confined bounds fact := by
  -- The responses are merged on the way, so the induction is for any response so far.
  induction items generalizing response with
  | nil => exact Work.confined_pure
  | cons item rest ih => exact (applies.visit _).bind fun next => ih _

/-- However the node is fed, it keeps within the bounds. -/
theorem apply (message : Message) : (Router.apply trail node message).Confined bounds fact := by
  unfold Router.apply
  split
  · exact applies.visit message
  · exact applies.visitEach message _ _

end Applies

namespace Expedition

variable {router : Router} {fact : Traversal → Prop} {reach : Nat → List String → String → Prop}
  (expedition : router.Expedition bounds fact reach)
include expedition

/-- What is changed besides the visits does not matter to the account. -/
theorem modify {change : Traversal → Traversal}
    (kept : ∀ traversal, (change traversal).visits = traversal.visits) :
    (Work.modify change).Confined bounds fact :=
  Work.confined_modify fun traversal held => expedition.account traversal _ (kept traversal) held

/-- Nor does what is done to the transaction. -/
theorem onTransaction {α : Type} {work : Work Transaction α}
    (confined : work.Confined bounds fun _ => True) :
    (Traversal.onTransaction work).Confined bounds fact :=
  Work.confined_onPart confined fun _ traversal held => expedition.account traversal _ rfl held

/-- An output may stop at any node. -/
theorem outputLeaf (node : String) (items : List Item) :
    (Router.outputLeaf node items).Confined bounds fact :=
  (expedition.log _).bind fun _ => expedition.modify fun _ => rfl

/-- So may a discard. -/
theorem discardLeaf (node : String) (items : List Item) :
    (Router.discardLeaf node items).Confined bounds fact :=
  (expedition.log _).bind fun _ => expedition.modify fun _ => rfl

/-- What a node returned goes on to where the topology sends it, or stops there. -/
theorem follow {onward : List String → String → Prop} {trail : List String} {node : Node}
    (station : router.Station bounds fact onward trail node) {descend : Descent}
    (descends : ∀ message destinations, destinations ≠ [] →
      (∀ destination ∈ destinations, onward trail destination) →
        (descend message destinations).Confined bounds fact)
    (message : Message) (response : Response) :
    (router.follow descend node message response).Confined bounds fact := by
  -- Each of the three channels stops at a leaf, or descends along a list of the topology.
  have output : (router.followOutput descend node message response.output).Confined bounds
      fact := by
    unfold followOutput
    dsimp only
    -- There is nothing to do for an empty output.
    split
    · exact Work.confined_pure
    · split
      · exact expedition.outputLeaf _ _
      · -- The destinations of the topology are where the station leads on to.
        rename_i nonempty
        exact descends _ _ (by simpa using nonempty) fun destination listed =>
          station.further destination (.output listed)
  have discard : ∀ batch,
      (router.followDiscard descend node message batch).Confined bounds fact := by
    intro batch
    unfold followDiscard
    dsimp only
    split
    · exact expedition.discardLeaf _ _
    · rename_i nonempty
      exact descends _ _ (by simpa using nonempty) fun destination listed =>
        station.further destination (.discard listed)
  have error : ∀ batch,
      (router.followError descend node message batch).Confined bounds fact := by
    intro batch
    unfold followError
    dsimp only
    split
    · -- Errors without a route are a leaf if that is tolerated, and the walk is stuck otherwise.
      rename_i nowhere
      unfold unrouted
      split
      · exact (expedition.log _).bind fun _ => expedition.modify fun _ => rfl
      · rename_i strict
        exact (expedition.log _).bind fun _ => Work.confined_abandon
          (station.stuck _ _ (by simpa using strict) (by simpa using nowhere))
    · rename_i nonempty
      exact descends _ _ (by simpa using nonempty) fun destination listed =>
        station.further destination (.error batch.kind listed)
  exact output.bind fun _ => (Work.confined_forEach fun batch _ => discard batch).bind fun _ =>
    Work.confined_forEach fun batch _ => error batch

/-- However deep a walk may go, what holds at each node that it reaches carries it through. -/
theorem dispatch (depth : Nat) {trail : List String} (message : Message)
    {destinations : List String} (nonempty : destinations ≠ [])
    (reached : ∀ destination ∈ destinations, reach depth trail destination) :
    (router.dispatch depth trail message destinations).Confined bounds fact := by
  -- The induction is on the depth, since each application descends by one.
  induction depth generalizing trail message destinations with
  | zero =>
    obtain ⟨destination, listed⟩ := List.exists_mem_of_ne_nil _ nonempty
    exact Work.confined_starve (expedition.exhausted trail destination (reached _ listed))
  | succ depth ih =>
    refine Work.confined_forEach fun destination listed => ?_
    unfold handTo
    cases found : router.nodes.get? destination with
    -- There is nobody at the destination, which is excused or cannot be.
    | none =>
      exact Work.confined_abandon
        (expedition.lost depth trail destination message.sender (reached _ listed) found)
    | some node =>
      -- The node can be applied where the trail has led, and the walk may go on from there.
      have station := expedition.station depth trail destination node (reached _ listed) found
      exact (station.apply message).bind fun response =>
        expedition.follow station (fun message _ nonempty further => ih message nonempty further)
          message response

variable {depth : Nat} {message : Message}
  (starts : ∀ destination ∈ router.topology.outputOf message.sender, reach depth [] destination)
include starts

/-- A traversal keeps within its bounds, from the origin on to the last node that it reaches. -/
theorem traverse : (router.traverse depth message).Confined bounds fact := by
  -- A resource of the producer takes part for as long as the traversal lasts.
  have origin : (enlistOrigin message).Confined bounds fact := by
    unfold enlistOrigin
    split
    · exact expedition.onTransaction
        (expedition.ofFaulty fun transaction => transaction.enlist_confined _)
    · exact Work.confined_pure
  have departs : (router.depart depth message).Confined bounds fact := by
    unfold depart
    dsimp only
    split
    · exact expedition.outputLeaf _ _
    · rename_i nonempty
      exact expedition.dispatch depth message (by simpa using nonempty) starts
  exact origin.bind fun _ => departs.bind fun _ =>
    expedition.onTransaction (expedition.delist message.origin)

omit starts in
/-- Resolving a walk asks the resources, and changes neither its account nor its failure. -/
theorem resolve (start : Duration) {traversal : Traversal} {walked : Except RouteFailure Unit}
    (held : fact traversal)
    (excused : ∀ failure, walked = .error failure → bounds.excused failure) :
    (Router.resolve message start (traversal, walked)).Confined bounds.allowed bounds.boundless
      fun ended => fact ended.1 ∧
        ∀ failure, ended.2 = .error failure → bounds.excused failure := by
  have reports : ∀ event, bounds.allowed (.log event) := fun event => expedition.shared _ rfl
  cases walked with
  | error failure =>
    -- The failure of the walk is the failure of the whole.
    refine (Transaction.rollback_confined _ _).within expedition.toOpen |>.bind
      fun transaction _ => ?_
    refine ⟨reports _, fun _ _ _ =>
      ⟨expedition.account traversal _ rfl held, fun raised same => ?_⟩⟩
    cases same
    exact excused failure rfl
  | ok _ =>
    refine (Transaction.commit_confined _).within expedition.toOpen |>.bind fun ended _ => ?_
    refine ⟨expedition.shared _ rfl, fun _ _ _ => ⟨reports _, fun _ _ _ => ?_⟩⟩
    exact ⟨expedition.account traversal _ rfl held, fun _ same => by cases same⟩

/-- A walk keeps within its bounds, and what comes of it is as its stations promise. -/
theorem walk (begins : ∀ id, fact (.opened id)) :
    (router.walk depth message).Confined bounds.allowed bounds.boundless fun ended =>
      fact ended.1 ∧ ∀ failure, ended.2 = .error failure → bounds.excused failure := by
  -- A number, a report and a look at the clock come before the first node.
  refine ⟨expedition.shared _ rfl, fun id _ _ => ⟨expedition.shared _ rfl, fun _ _ _ =>
    ⟨expedition.shared _ rfl, fun start _ _ => ?_⟩⟩⟩
  have traverses : (router.traverse depth { message with transaction := some id }).Confined bounds
    fact := expedition.traverse starts
  refine (traverses (.opened id) (begins id)).bind fun ended kept => ?_
  exact expedition.resolve start kept.1 kept.2

/-- Routing keeps within the bounds of its walk, and fails only as that may. -/
theorem route (begins : ∀ id, fact (.opened id)) :
    (router.route depth message).Confined bounds.allowed bounds.boundless fun result =>
      ∀ failure, result = .error failure → bounds.excused failure :=
  (expedition.walk starts begins).bind fun _ kept => kept.2

end Expedition

end Router

end BatchFlow
