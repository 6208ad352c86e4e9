import BatchFlow.Proofs.Router.Completeness
import BatchFlow.Proofs.Router.Walk

/-! Every message of a walk comes from the one that the walk set out with. What is kept as the walk
goes on from message to message is kept by the whole of it, however it ends. -/

namespace BatchFlow

open Plan (Exchange)
open Work (Fact)

/-- The traversal with a parcel that stopped where it was made. -/
def Traversal.stop (traversal : Traversal) (origin : String) : Parcel → Traversal
  | .output items => { traversal with outputs := traversal.outputs ++ [⟨origin, items⟩] }
  | .discard batch => { traversal with discards := traversal.discards ++ [⟨origin, batch.items⟩] }
  | .error batch => { traversal with unhandled := traversal.unhandled ++ batch.errors }

namespace Router

/-- A parcel left an origin at the end of a trail, as a message. The message that the walk set out
with is the output of its sender. Any other parcel was returned by a node that was handed each part
of a message that had come its way, and that visits have been noted for. -/
inductive Sent (router : Router) (top : Message) (visits : List Visit) :
    List String → String → Parcel → Message → Prop where
  | departed : Sent router top visits [] top.sender (.output top.data) top
  | returned {trail : List String} {origin : String} {parcel next : Parcel} {message : Message}
      {node : Node} {applications : List Application}
      (sent : Sent router top visits trail origin parcel message)
      (destined : node.id ∈ parcel.destinations router.topology origin)
      (registered : router.nodes.get? node.id = some node)
      (applied : applications.map (·.message) = node.parts message)
      (responded : ∀ application ∈ applications, application.IsOf node)
      (noted : (Shipment.applied (trail ++ [node.id]) applications).visits <:+: visits)
      (made : next ∈ (Response.joined (applications.map (·.response))).parcels) :
    Sent router top visits (trail ++ [node.id]) node.id next (message.derive node.id next.items)

/-- A node is handed a part of a message, as which a parcel left an origin at the end of a trail. -/
structure Hands (router : Router) (top : Message) (visits : List Visit) (trail : List String)
    (origin : String) (parcel : Parcel) (node : Node) (part : Message) : Prop where
  destined : node.id ∈ parcel.destinations router.topology origin
  registered : router.nodes.get? node.id = some node
  sent : ∃ message, router.Sent top visits trail origin parcel message ∧ part ∈ node.parts message

variable {router : Router} {top : Message} {visits : List Visit} {trail : List String}
  {origin : String} {parcel : Parcel} {message : Message} {node : Node}

/-- What was sent stays sent when more visits are noted. -/
theorem Sent.later (sent : router.Sent top visits trail origin parcel message)
    (more : List Visit) : router.Sent top (visits ++ more) trail origin parcel message := by
  -- By induction on how it was sent; the visits that were noted then are among the later ones.
  induction sent with
  | departed => exact .departed
  | returned _ destined registered applied responded noted made ih =>
    have still := noted.trans (List.prefix_append visits more).isInfix
    exact .returned ih destined registered applied responded still made

/-- What a node is handed it is still handed when more visits are noted. -/
theorem Hands.later {part : Message} (hands : router.Hands top visits trail origin parcel node part)
    (more : List Visit) : router.Hands top (visits ++ more) trail origin parcel node part where
  destined := hands.destined
  registered := hands.registered
  sent := hands.sent.imp fun _ ⟨sent, among⟩ => ⟨sent.later more, among⟩

/-- What may be known of a walk that sets out with a message: it stays known when the walk deals
with its transaction, when a node is visited that was handed something, and when a parcel stops that
has nowhere to go. -/
structure Chronicle (router : Router) (top : Message) (fact : Fact Traversal) : Prop where
  aside : ∀ {past traversal}, fact past traversal → ∀ (trace : List Exchange)
    (transaction : Transaction), (∀ exchange ∈ trace, exchange.call.isShared = true) →
      fact (past ++ trace) { traversal with transaction }
  visited : ∀ {past traversal}, fact past traversal → ∀ {trail origin parcel node part},
    router.Hands top traversal.visits trail origin parcel node part →
      ∀ {trace transaction result},
        (node.apply part traversal.transaction).Runs trace (transaction, result) →
          fact (past ++ trace) { traversal with
            transaction, visits := traversal.visits ++ [⟨trail ++ [node.id], part, result⟩] }
  stopped : ∀ {past traversal}, fact past traversal → ∀ {trail origin parcel message},
    router.Sent top traversal.visits trail origin parcel message →
      parcel.destinations router.topology origin = [] → fact past (traversal.stop origin parcel)

variable {fact : Fact Traversal}

/-- A parcel that stops is no visit. -/
theorem stop_visits (traversal : Traversal) (origin : String) (parcel : Parcel) :
    (traversal.stop origin parcel).visits = traversal.visits := by
  cases parcel <;> rfl

namespace Chronicle

/-- What is true of the visits, and stays true when more are noted, may be known as well. -/
theorem knowing (chronicle : router.Chronicle top fact) (claim : List Visit → Prop)
    (later : ∀ {visits} more, claim visits → claim (visits ++ more)) :
    router.Chronicle top fun past traversal => fact past traversal ∧ claim traversal.visits where
  -- Only a visit adds to what was noted.
  aside := fun ⟨held, known⟩ trace transaction shared =>
    ⟨chronicle.aside held trace transaction shared, known⟩
  visited := fun ⟨held, known⟩ _ _ _ _ _ hands _ _ _ runs =>
    ⟨chronicle.visited held hands runs, later _ known⟩
  stopped := fun ⟨held, known⟩ _ _ _ _ sent nowhere =>
    ⟨chronicle.stopped held sent nowhere, (stop_visits ..).symm ▸ known⟩

variable (chronicle : router.Chronicle top fact)
include chronicle

/-- A report keeps what is known of the walk. -/
theorem log (event : Event) : (Work.log event : Work Traversal Unit).Keeps fact :=
  Work.fulfils_call fun {_ traversal} _ held =>
    chronicle.aside held _ traversal.transaction (by simp [Call.isShared])

/-- Dealing with the transaction keeps what is known of the walk. -/
theorem onTransaction {α : Type} {work : Work Transaction α} {excused : RouteFailure → Prop}
    (confined : work.Confined ⟨(·.isShared = true), excused, False⟩ fun _ => True) :
    (Traversal.onTransaction work).Keeps fact where
  ends {past traversal trace after value} held runs := by
    -- What is asked about the transaction is shared, and belongs to no visit.
    obtain ⟨transaction, ran, rfl⟩ := Work.runs_onPart_iff.mp runs
    have shared := ((confined traversal.transaction trivial).runs ran).1
    exact chronicle.aside held trace transaction shared
  stops {past traversal trace after failure} held runs := by
    obtain ⟨transaction, ran, rfl⟩ := Work.runs_onPart_iff.mp runs
    have shared := ((confined traversal.transaction trivial).runs ran).1
    exact chronicle.aside held trace transaction shared

/-- A visit to a node that was handed the part keeps it. -/
theorem visit {part : Message} (hands : ∀ {past traversal}, fact past traversal →
    router.Hands top traversal.visits trail origin parcel node part) :
    (Router.visit (trail ++ [node.id]) node part).Keeps fact where
  -- The visit is noted whether or not the node responds.
  ends held runs := by
    obtain ⟨transaction, applied, rfl⟩ := visit_runs_iff.mp runs
    exact chronicle.visited held (hands held) applied
  stops held runs := by
    obtain ⟨transaction, applied, rfl⟩ := visit_runs_iff.mp runs
    exact chronicle.visited held (hands held) applied

/-- So do visits with one item after the other. -/
theorem visitEach {items : List Item} (response : Response)
    (hands : ∀ item ∈ items, ∀ {past traversal}, fact past traversal →
      router.Hands top traversal.visits trail origin parcel node (message.single item)) :
    (Router.visitEach (trail ++ [node.id]) node message response items).Keeps fact := by
  -- The responses are merged on the way, so the induction is for any response so far.
  induction items generalizing response with
  | nil => exact Work.fulfils_pure fun held => held
  | cons item rest ih =>
    obtain ⟨first, others⟩ := List.forall_mem_cons.mp hands
    exact (chronicle.visit first).bind fun next => ih _ others

/-- A node is applied to each part of what it is handed. -/
theorem apply (hands : ∀ part ∈ node.parts message, ∀ {past traversal}, fact past traversal →
    router.Hands top traversal.visits trail origin parcel node part) :
    (Router.apply (trail ++ [node.id]) node message).Keeps fact := by
  unfold Router.apply
  unfold Node.parts at hands
  split
  · -- Either the message itself is the only part, or each item is one.
    rename_i whole
    rw [if_pos whole] at hands
    exact chronicle.visit (hands message (by simp))
  · rename_i several
    rw [if_neg several] at hands
    exact chronicle.visitEach _ fun item member => hands _ (List.mem_map_of_mem member)

/-- A parcel that has nowhere to go stops, once that has been reported. -/
theorem stop (event : Event) (sent : ∀ {past traversal}, fact past traversal →
    router.Sent top traversal.visits trail origin parcel message)
    (nowhere : parcel.destinations router.topology origin = []) :
    (do Work.log event; Work.modify (·.stop origin parcel) : Work Traversal Unit).Keeps fact :=
  (chronicle.log event).bind fun _ =>
    Work.fulfils_modify fun held => chronicle.stopped held (sent held) nowhere

end Chronicle

/-- Going on along a trail keeps whatever may be known of a walk. -/
def Carries (router : Router) (top : Message) (trail : List String) (descend : Descent) : Prop :=
  ∀ {fact origin parcel message}, router.Chronicle top fact →
    (∀ {past traversal}, fact past traversal →
      router.Sent top traversal.visits trail origin parcel message) →
    (descend message (parcel.destinations router.topology origin)).Keeps fact

/-- Everything that a node returned is sent as a message of its own. -/
def SendsAll (router : Router) (top : Message) (trail : List String) (node : Node)
    (message : Message) (response : Response) (visits : List Visit) : Prop :=
  ∀ next ∈ response.parcels,
    router.Sent top visits trail node.id next (message.derive node.id next.items)

namespace Chronicle

variable (chronicle : router.Chronicle top fact)
include chronicle

/-- A node that responds has everything sent that it returned. -/
theorem applies (destined : node.id ∈ parcel.destinations router.topology origin)
    (registered : router.nodes.get? node.id = some node)
    (sent : ∀ {past traversal}, fact past traversal →
      router.Sent top traversal.visits trail origin parcel message) :
    (Router.apply (trail ++ [node.id]) node message).Fulfils fact
      (fun response past traversal => fact past traversal ∧
        router.SendsAll top (trail ++ [node.id]) node message response traversal.visits)
      (fun _ => fact) := by
  have keeps := chronicle.apply fun part among _ _ held =>
    ⟨destined, registered, message, sent held, among⟩
  refine ⟨fun held runs => ⟨keeps.ends held runs, ?_⟩, keeps.stops⟩
  intro next made
  obtain ⟨applications, applied, responded, rfl, adds⟩ := apply_adds runs
  have noted := adds.visits
  -- The visits that are noted are those of the parts, right after those that were there before.
  rw [noted]
  exact .returned ((sent held).later _) destined registered applied responded
    (List.suffix_append _ _).isInfix made

/-- Following what a node returned is stopping it, or going on with it. -/
theorem follow {descend : Descent} {response : Response}
    (carries : router.Carries top trail descend)
    (sends : ∀ {past traversal}, fact past traversal →
      router.SendsAll top trail node message response traversal.visits) :
    (router.follow descend node message response).Keeps fact := by
  -- Each parcel is on one of three channels, and was sent with the others.
  have output : (router.followOutput descend node message response.output).Keeps fact := by
    -- An empty output was never sent, and there is nothing to follow.
    unfold followOutput
    split
    · exact Work.fulfils_pure fun held => held
    · rename_i filled
      have sent : ∀ {past traversal}, fact past traversal → router.Sent top traversal.visits trail
          node.id (.output response.output) (message.derive node.id response.output) :=
        fun held => sends held _ (by simp [Response.parcels, filled])
      dsimp only
      split
      · rename_i nowhere
        exact chronicle.stop _ sent (List.isEmpty_iff.mp nowhere)
      · exact carries chronicle sent
  -- Discards that are sent nowhere stop here.
  have discard : ∀ batch ∈ response.discards,
      (router.followDiscard descend node message batch).Keeps fact := by
    intro batch member
    have sent : ∀ {past traversal}, fact past traversal → router.Sent top traversal.visits trail
        node.id (.discard batch) (message.derive node.id batch.items) :=
      fun held => sends held _ (by simp [Response.parcels, member])
    unfold followDiscard
    dsimp only
    split
    · rename_i nowhere
      exact chronicle.stop _ sent (List.isEmpty_iff.mp nowhere)
    · exact carries chronicle sent
  -- Errors that are sent nowhere stop here too, or else the walk fails.
  have error : ∀ batch ∈ response.errors,
      (router.followError descend node message batch).Keeps fact := by
    intro batch member
    have sent : ∀ {past traversal}, fact past traversal → router.Sent top traversal.visits trail
        node.id (.error batch) (message.derive node.id (batch.errors.map (·.toItem))) :=
      fun held => sends held _ (by simp [Response.parcels, member])
    unfold followError
    dsimp only
    split
    · rename_i nowhere
      unfold unrouted
      split
      · exact chronicle.stop _ sent (List.isEmpty_iff.mp nowhere)
      · exact (chronicle.log _).bind fun _ => Work.fulfils_abandon fun held => held
    · exact carries chronicle sent
  exact output.bind fun _ => (Work.fulfils_forEach discard).bind fun _ =>
    Work.fulfils_forEach error

end Chronicle

/-- However deep a walk goes on, it keeps whatever may be known of it. -/
theorem dispatch_carries (router : Router) (top : Message) (depth : Nat) (trail : List String) :
    router.Carries top trail (router.dispatch depth trail) := by
  -- The facts grow on the way down, so the induction is for all of them at once.
  induction depth generalizing trail with
  | zero => exact fun _ _ => Work.fulfils_starve
  | succ depth ih =>
    intro fact origin parcel message chronicle sent
    refine Work.fulfils_forEach fun destination destined => ?_
    unfold handTo
    cases found : router.nodes.get? destination with
    | none => exact Work.fulfils_abandon fun held => held
    | some node =>
      -- The node that is found is the one of that name.
      obtain rfl := Nodes.id_of_get? found
      refine (chronicle.applies destined found sent).bind fun response => ?_
      have knowing := chronicle.knowing
        (router.SendsAll top (trail ++ [node.id]) node message response)
        fun more sends next made => (sends next made).later more
      exact (knowing.follow (ih _) And.right).weaken id And.left And.left

/-- What may be known of a walk is kept by the whole traversal. -/
theorem Chronicle.traverse (chronicle : router.Chronicle top fact) (depth : Nat) :
    (router.traverse depth top).Keeps fact := by
  have shared : (⟨(·.isShared = true), fun _ => True, False⟩ : Work.Bounds).Open :=
    ⟨fun _ shared => shared, fun _ => trivial⟩
  have origin : (enlistOrigin top).Keeps fact := by
    unfold enlistOrigin
    -- Enlisting a resource is a matter of the transaction alone.
    split
    · exact chronicle.onTransaction
        (shared.ofFaulty fun transaction => transaction.enlist_confined _)
    · exact Work.fulfils_pure fun held => held
  have departs : (router.depart depth top).Keeps fact := by
    unfold depart
    dsimp only
    split
    · rename_i nowhere
      exact chronicle.stop _ (fun _ => Sent.departed) (List.isEmpty_iff.mp nowhere)
    · exact dispatch_carries router top depth [] chronicle fun _ => Sent.departed
  exact origin.bind fun _ => departs.bind fun _ =>
    chronicle.onTransaction (shared.delist top.origin)

/-- In the end only the transaction is dealt with. -/
theorem resolve_aside (start : Duration) (traversal : Traversal)
    (walked : Except RouteFailure Unit) :
    (resolve message start (traversal, walked)).Confined (·.isShared = true) False fun ended =>
      ∃ transaction, ended.1 = { traversal with transaction } := by
  cases walked with
  | error failure =>
    -- The failure is reported after the rollback.
    exact (Transaction.rollback_confined _ _).bind fun transaction _ =>
      ⟨rfl, fun _ _ _ => ⟨transaction, rfl⟩⟩
  | ok _ =>
    refine (Transaction.commit_confined _).bind fun ended _ => ?_
    exact ⟨rfl, fun _ _ _ => ⟨rfl, fun _ _ _ => ⟨ended.1, rfl⟩⟩⟩

/-- Whatever may be known of a walk, and is known when it sets out, is known when it is over. -/
theorem walk_keeps {depth : Nat} {trace : List Exchange} {traversal : Traversal}
    {result : Except RouteFailure Terminal}
    (runs : (router.walk depth message).Runs trace (traversal, result)) :
    ∃ id rest, trace = ⟨.openTransaction, id⟩ :: rest ∧ ∀ fact : Fact Traversal,
      router.Chronicle { message with transaction := some id } fact →
      fact [⟨.openTransaction, id⟩] (.opened id) → fact trace traversal := by
  obtain ⟨id, start, middle, walked, working, closing, rfl, traverses, resolves⟩ := walk_runs runs
  refine ⟨id, _, rfl, fun fact chronicle begins => ?_⟩
  -- A report and a look at the clock come before the first node.
  have opened : fact [⟨.openTransaction, id⟩,
      ⟨.log (.traversalStarted id message.sender message.data.length), ()⟩, ⟨.clock, start⟩]
      (.opened id) :=
    chronicle.aside begins [⟨.log _, ()⟩, ⟨.clock, start⟩] (.opened id) (by simp [Call.isShared])
  obtain ⟨shared, transaction, rfl⟩ := (resolve_aside start middle walked).runs resolves
  refine chronicle.aside ?_ closing transaction shared
  cases walked with
  | ok _ => exact (chronicle.traverse depth).ends opened traverses
  | error failure => exact (chronicle.traverse depth).stops opened traverses

/-- A visit is one to a node that was handed what left an origin at the end of a trail. -/
inductive Delivered (router : Router) (top : Message) (visits : List Visit) :
    List String → String → Parcel → Visit → Prop where
  | of {trail : List String} {origin : String} {parcel : Parcel} {node : Node} {part : Message}
      {before after : Transaction} {calls : List Exchange} {result : Except RouteFailure Response}
      (hands : router.Hands top visits trail origin parcel node part)
      (applied : (node.apply part before).Runs calls (after, result)) :
    Delivered router top visits trail origin parcel ⟨trail ++ [node.id], part, result⟩

/-- A delivery still is one when more visits are noted. -/
theorem Delivered.later {visit : Visit}
    (delivered : router.Delivered top visits trail origin parcel visit) (more : List Visit) :
    router.Delivered top (visits ++ more) trail origin parcel visit := by
  cases delivered with
  | of hands applied => exact .of (hands.later more) applied

/-- Every visit and every error that was left unhandled comes from what was sent. -/
structure Accounted (router : Router) (top : Message) (traversal : Traversal) : Prop where
  visits : ∀ visit ∈ traversal.visits, ∃ trail origin parcel,
    router.Delivered top traversal.visits trail origin parcel visit
  unhandled : ∀ failed ∈ traversal.unhandled, ∃ trail origin batch message,
    router.Sent top traversal.visits trail origin (.error batch) message ∧ failed ∈ batch.errors

/-- A walk stays accounted for from its beginning on. -/
theorem accounted_chronicle (router : Router) (top : Message) :
    router.Chronicle top fun _ => router.Accounted top where
  aside accounted _ _ _ := ⟨accounted.visits, accounted.unhandled⟩
  visited {past traversal} accounted {trail origin parcel node part} hands
      {trace transaction result} runs := by
    constructor
    · -- The new visit is to the node that was handed the part.
      intro visit member
      rcases List.mem_append.mp member with old | new
      · obtain ⟨trail, origin, parcel, delivered⟩ := accounted.visits visit old
        exact ⟨trail, origin, parcel, delivered.later _⟩
      · cases List.mem_singleton.mp new
        exact ⟨trail, origin, parcel, .of (hands.later _) runs⟩
    · intro failed member
      obtain ⟨trail, origin, batch, message, sent, among⟩ := accounted.unhandled failed member
      exact ⟨trail, origin, batch, message, sent.later _, among⟩
  stopped {past traversal} accounted {trail origin parcel message} sent _ := by
    cases parcel with
    | output | discard => exact ⟨accounted.visits, accounted.unhandled⟩
    | error batch =>
      -- Only a batch of errors that stops leaves anything unhandled.
      refine ⟨accounted.visits, fun failed member => ?_⟩
      rcases List.mem_append.mp member with old | new
      · exact accounted.unhandled failed old
      · exact ⟨trail, origin, batch, message, sent, new⟩

/-- At its beginning a walk has nothing to account for. -/
theorem accounted_opened (router : Router) (top : Message) (id : Nat) :
    router.Accounted top (.opened id) :=
  ⟨by simp [Traversal.opened], by simp [Traversal.opened]⟩

end Router

end BatchFlow
