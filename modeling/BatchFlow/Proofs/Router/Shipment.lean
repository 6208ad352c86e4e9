import BatchFlow.Proofs.Node.Calls
import BatchFlow.Proofs.Response.Batches
import BatchFlow.Router

/-! Who was handed what in a walk, as a tree of shipments, and the ledger that follows from going
through that tree depth first. -/

namespace BatchFlow

open Plan (Exchange)

/-- What leaves a node on one of its channels. -/
inductive Parcel where
  | output (items : List Item)
  | discard (batch : DiscardBatch)
  | error (batch : ErrorBatch)

namespace Parcel

/-- The items that are handed on; a failed item becomes a value of its own. -/
def items : Parcel → List Item
  | output items => items
  | discard batch => batch.items
  | error batch => batch.errors.map (·.toItem)

/-- Where a parcel that leaves an origin is to go. -/
def destinations (topology : Topology) (origin : String) : Parcel → List String
  | output _ => topology.outputOf origin
  | discard _ => topology.discardOf origin
  | error batch => topology.errorDestinations origin batch.kind

/-- Whether a parcel that is to go nowhere may stop at a node: errors stop only at a best-effort
one. -/
def mayStopAt (node : Node) : Parcel → Prop
  | output _ | discard _ => True
  | error _ => node.bestEffort = true

end Parcel

/-- Everything that a response sends on its way, in the order in which it is followed. An output
without items is no parcel. -/
def Response.parcels (response : Response) : List Parcel :=
  (if response.output.isEmpty then [] else [.output response.output]) ++
    (response.discards.map .discard ++ response.errors.map .error)

/-- One application of a node: the message, what was asked and answered, and the response. -/
structure Application where
  message : Message
  calls : List Exchange
  response : Response

/-- The application is one of the node, which responded. -/
def Application.IsOf (application : Application) (node : Node) : Prop :=
  ∃ before after, (node.apply application.message before).Runs application.calls
    (after, .ok application.response)

/-- A message that was handed to one destination: the node that is registered there, its
applications, and each parcel that came of them with the shipments of that parcel. -/
structure Shipment where
  destination : String
  node : Node
  message : Message
  applications : List Application
  fates : List (Parcel × List Shipment)

/-- What came of a shipment as a whole, see `Response.joined_keeps`. -/
def Shipment.response (shipment : Shipment) : Response :=
  .joined (shipment.applications.map (·.response))

/-- The messages that a node is applied to when it is handed one: the message itself, or one for
each of its items if there are several and the node does not take batches. -/
def Node.parts (node : Node) (message : Message) : List Message :=
  if node.acceptsBatches || message.data.length ≤ 1 then [message]
  else message.data.map message.single

/-- A node that does not take batches gets every item by itself, in order. -/
theorem Node.parts_items {node : Node} {message : Message} (single : node.acceptsBatches = false)
    (filled : message.data ≠ []) :
    (node.parts message).map (·.data) = message.data.map fun item => [item] := by
  unfold parts
  -- Whether the message is split depends on the node and on how many items there are.
  split
  · -- One item is passed on as it came.
    rename_i whole
    obtain ⟨item, rest, same⟩ := List.exists_cons_of_ne_nil filled
    cases rest with
    | nil => simp [same]
    | cons next rest => simp [single, same] at whole
  · simp [Message.single, Message.derive]

mutual

/-- A shipment was carried out in full: the node is the one registered for the destination, it was
applied to each part of the message and responded, and every parcel of the joined response was
followed, in order. -/
inductive Shipment.Complete (router : Router) : Shipment → Prop where
  | of (shipment : Shipment)
      (registered : router.nodes.get? shipment.destination = some shipment.node)
      (applied : shipment.applications.map (·.message) = shipment.node.parts shipment.message)
      (responded : ∀ application ∈ shipment.applications, application.IsOf shipment.node)
      (parcels : shipment.fates.map (·.1) = shipment.response.parcels)
      (followed : ∀ fate ∈ shipment.fates, Followed router shipment.node shipment.message fate) :
    Shipment.Complete router shipment

/-- A parcel that a node made of a message was followed: it stopped there if it is to go nowhere,
and otherwise it was handed to each of its destinations, in order and in full. -/
inductive Followed (router : Router) : Node → Message → Parcel × List Shipment → Prop where
  | stopped (node : Node) (message : Message) (parcel : Parcel)
      (nowhere : parcel.destinations router.topology node.id = [])
      (allowed : parcel.mayStopAt node) :
    Followed router node message (parcel, [])
  | handed (node : Node) (message : Message) (parcel : Parcel) (shipments : List Shipment)
      (somewhere : parcel.destinations router.topology node.id ≠ [])
      (everywhere : shipments.map (·.destination) =
        parcel.destinations router.topology node.id)
      (intact : ∀ shipment ∈ shipments,
        shipment.message = message.derive node.id parcel.items)
      (complete : ∀ shipment ∈ shipments, shipment.Complete router) :
    Followed router node message (parcel, shipments)

end

/-- What a part of a walk adds to the accounts: applications, questions put to collaborators, and
what stopped at leaves. -/
structure Ledger where
  visits : List Visit
  calls : List Exchange
  outputs : List TerminalBatch
  discards : List TerminalBatch
  unhandled : List FailedItem

namespace Ledger

/-- Nothing happened. -/
def empty : Ledger := ⟨[], [], [], [], []⟩

/-- One part of a walk comes after another. -/
instance : Append Ledger where
  append first second :=
    ⟨first.visits ++ second.visits, first.calls ++ second.calls, first.outputs ++ second.outputs,
      first.discards ++ second.discards, first.unhandled ++ second.unhandled⟩

/-- Several parts of a walk, one after another. -/
def all (ledgers : List Ledger) : Ledger := ledgers.foldr (· ++ ·) empty

/-- Where there are no parts, nothing happened. -/
@[simp] theorem all_nil : all [] = empty := rfl

/-- The first part comes before all others. -/
@[simp] theorem all_cons (first : Ledger) (rest : List Ledger) :
    all (first :: rest) = first ++ all rest := rfl

/-- It makes no difference which parts are put together first. -/
theorem append_assoc (first second third : Ledger) :
    first ++ second ++ third = first ++ (second ++ third) := by
  show Ledger.mk .. = Ledger.mk ..
  -- The five accounts are put together one by one.
  simp only [Ledger.mk.injEq]
  refine ⟨?_, ?_, ?_, ?_, ?_⟩ <;> exact List.append_assoc _ _ _

/-- The parts of one account can be followed by those of another. -/
theorem all_append (first second : List Ledger) :
    all (first ++ second) = all first ++ all second := by
  -- Account after account, where only the brackets move.
  induction first with
  | nil => rfl
  | cons head rest ih => rw [List.cons_append, all_cons, all_cons, ih, append_assoc]

end Ledger

/-- A question to the collaborator of a node that is being applied. -/
def isAppliedCall (exchange : Exchange) : Bool := exchange.call.applied?.isSome

/-- A parcel that stops at a node is recorded there, under its channel. -/
def Parcel.leaf (origin : String) : Parcel → Ledger
  | output items => { Ledger.empty with outputs := [⟨origin, items⟩] }
  | discard batch => { Ledger.empty with discards := [⟨origin, batch.items⟩] }
  | error batch => { Ledger.empty with unhandled := batch.errors }

namespace Shipment

/-- The applications of a node, and nothing of what follows from them. -/
def applied (trail : List String) (applications : List Application) : Ledger :=
  { Ledger.empty with
    visits := applications.map fun application =>
      ⟨trail, application.message, .ok application.response⟩
    calls := applications.flatMap (·.calls.filter isAppliedCall) }

/-- The first application comes before the others. -/
theorem applied_cons (trail : List String) (first : Application) (rest : List Application) :
    applied trail (first :: rest) = applied trail [first] ++ applied trail rest := by
  -- Only the applications and their questions are more than nothing.
  show Ledger.mk .. = Ledger.mk ..
  simp [applied, Ledger.empty]

mutual

/-- The ledger of a shipment: first its applications, then what follows from them, parcel by
parcel. -/
def ledger (trail : List String) : Shipment → Ledger
  | ⟨_, node, _, applications, fates⟩ =>
    applied (trail ++ [node.id]) applications ++ ledgerOfFates (trail ++ [node.id]) node.id fates

/-- One parcel after another. -/
def ledgerOfFates (trail : List String) (origin : String) :
    List (Parcel × List Shipment) → Ledger
  | [] => .empty
  | fate :: rest => ledgerOfFate trail origin fate ++ ledgerOfFates trail origin rest

/-- A parcel without shipments stopped at its origin. -/
def ledgerOfFate (trail : List String) (origin : String) : Parcel × List Shipment → Ledger
  | (parcel, []) => parcel.leaf origin
  | (_, shipments) => ledgerOfShipments trail shipments

/-- Everything below one destination comes before the next destination. -/
def ledgerOfShipments (trail : List String) : List Shipment → Ledger
  | [] => .empty
  | shipment :: rest => shipment.ledger trail ++ ledgerOfShipments trail rest

end

end Shipment

end BatchFlow
