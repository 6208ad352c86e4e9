import BatchFlow.Proofs.Metadata.SingleTraversal
import BatchFlow.Proofs.Node.Classification
import BatchFlow.Proofs.Router.Lineage

/-! Every message of a walk belongs to the one that the walk set out with, and says where it comes
from. So does every error that is delivered, or that is left unhandled. -/

namespace BatchFlow

open Plan (Exchange)
open Stage (World)

/-- A message is in the same unit of work as another one: it has the same transaction, worker and
position, and the very same metadata. -/
structure Message.BelongsTo (message top : Message) : Prop where
  transaction : message.transaction = top.transaction
  worker : message.worker = top.worker
  context : message.context = top.context
  metadata : message.metadata = top.metadata

namespace Message

variable {message top : Message}

/-- A message belongs to itself. -/
theorem BelongsTo.refl (message : Message) : message.BelongsTo message := ⟨rfl, rfl, rfl, rfl⟩

/-- A message that a node makes of another one stays in its unit of work. -/
theorem BelongsTo.derive (belongs : message.BelongsTo top) (sender : String) (data : List Item) :
    (message.derive sender data).BelongsTo top :=
  ⟨belongs.transaction, belongs.worker, belongs.context, belongs.metadata⟩

end Message

/-- A part of a message is the message itself, or a message of its own for one of the items. -/
theorem Node.mem_parts {node : Node} {message part : Message} (among : part ∈ node.parts message) :
    part = message ∨ ∃ item ∈ message.data, part = message.single item := by
  -- It depends on whether the node takes batches.
  unfold parts at among
  split at among
  · exact .inl (List.mem_singleton.mp among)
  · obtain ⟨item, member, rfl⟩ := List.mem_map.mp among
    exact .inr ⟨item, member, rfl⟩

namespace Router

variable {router : Router} {top message : Message} {visits : List Visit} {trail : List String}
  {origin : String} {parcel : Parcel}

/-- What a message that was sent brings along. -/
structure Brings (top : Message) (origin : String) (parcel : Parcel) (message : Message) :
    Prop where
  belongs : message.BelongsTo top
  sender : message.sender = origin
  origin : message.origin = none ∨ message = top
  data : message.data = parcel.items

/-- What is sent belongs to the message that the walk set out with, names its sender and holds the
items of the parcel. -/
theorem Sent.brings (sent : router.Sent top visits trail origin parcel message) :
    Brings top origin parcel message := by
  -- What departs is in the message itself, and what was returned is in one derived from it.
  induction sent with
  | departed => exact ⟨.refl top, rfl, .inr rfl, rfl⟩
  | returned _ _ _ _ _ _ _ ih => exact ⟨ih.belongs.derive _ _, rfl, .inl rfl, rfl⟩

/-- A part of a message brings along what the message brings, with one or all of the items. -/
theorem Hands.brings {node : Node} {part : Message}
    (hands : router.Hands top visits trail origin parcel node part) :
    part.BelongsTo top ∧ part.sender = origin ∧ (part.origin = none ∨ part = top) ∧
      ∀ item ∈ part.data, item ∈ parcel.items := by
  obtain ⟨message, sent, among⟩ := hands.sent
  obtain ⟨belongs, sender, source, data⟩ := sent.brings
  -- A message of its own is derived from the message and has one of its items.
  rcases Node.mem_parts among with rfl | ⟨item, member, rfl⟩
  · exact ⟨belongs, sender, source, fun item member => data ▸ member⟩
  · refine ⟨belongs.derive _ _, sender, .inl rfl, fun other single => ?_⟩
    cases List.mem_singleton.mp single
    exact data ▸ member

/-- An error was raised in a walk: it is not fatal, it names the node at the end of a trail and the
worker of the walk, and that node responded with it to a message that had the item. -/
structure Raised (top : Message) (visits : List Visit) (trail : List String) (origin : String)
    (failed : FailedItem) : Prop where
  mild : failed.cause.fatal = false
  accuses : failed.origin = origin
  worker : failed.worker = top.worker
  input : ∃ visit ∈ visits, visit.trail = trail ∧ trail.getLast? = some origin ∧
    failed.data ∈ visit.message.data ∧
    ∃ response, visit.result = .ok response ∧ failed ∈ response.failed

/-- Whatever is in an error batch that was sent was raised by the node that it was sent from. -/
theorem Sent.raised {batch : ErrorBatch}
    (sent : router.Sent top visits trail origin (.error batch) message) :
    ∀ failed ∈ batch.errors, Raised top visits trail origin failed := by
  intro failed member
  generalize same : Parcel.error batch = parcel at sent
  cases sent with
  -- Only a node that has returned sends an error batch.
  | departed => cases same
  | @returned before _ _ _ earlier node applications sent _ _ applied responded noted made =>
    subst same
    -- The batch is one of the joined response, and so one of the applications has raised it.
    have joined : failed ∈ (Response.joined (applications.map (·.response))).failed := by
      refine List.mem_flatMap.mpr ⟨batch, ?_, member⟩
      have parcels : Parcel.error batch ∈
          (Response.joined (applications.map (·.response))).parcels := made
      unfold Response.parcels at parcels
      split at parcels <;> simpa using parcels
    rw [(Response.joined_keeps _).2.2, List.flatMap_map] at joined
    obtain ⟨application, among, raised⟩ := List.mem_flatMap.mp joined
    -- That application has failed the item with its own name and that of the worker.
    obtain ⟨_, _, ran⟩ := responded application among
    obtain ⟨mild, origin, worker, data⟩ := Node.apply_failed ran failed raised
    have part : application.message ∈ node.parts earlier :=
      applied ▸ List.mem_map_of_mem among
    -- The parts of a message are from the same worker as the message.
    have belongs : application.message.worker = top.worker := by
      rcases Node.mem_parts part with same | ⟨item, _, same⟩
      · rw [same, sent.brings.belongs.worker]
      · rw [same]
        exact sent.brings.belongs.worker
    refine ⟨mild, origin, worker.trans belongs, ⟨_, application.message, .ok application.response⟩,
      noted.subset ?_, rfl, by simp, data, application.response, rfl, raised⟩
    exact List.mem_map.mpr ⟨application, among, rfl⟩

/-- Only the metadata of the message that a walk set out with are shared on it. -/
theorem attends_chronicle (router : Router) (top : Message) :
    router.Chronicle top fun past _ => router.Attends top.metadata past where
  aside attends _ _ shared :=
    attends.append fun exchange member => apt_of_shared (shared exchange member)
  visited attends _ _ _ _ _ hands _ _ _ runs :=
    attends_apply hands.registered hands.brings.1.metadata attends runs
  stopped attends _ _ _ _ _ _ := attends

/-- Whenever a step is reset, it gets a certain position. -/
def Resets (context : Option Item) (past : List Exchange) : Prop :=
  ∀ exchange ∈ past, ∀ id other, exchange.call = .resetStep id other → other = context

/-- Steps are reset to the position of the message that a walk set out with. -/
theorem resets_chronicle (router : Router) (top : Message) :
    router.Chronicle top fun past _ => Resets top.context past where
  aside := by
    intro past traversal resets trace transaction shared exchange member id other same
    rcases List.mem_append.mp member with old | new
    · exact resets exchange old id other same
    · -- What is asked about the transaction resets nothing.
      have aside := shared exchange new
      rw [same] at aside
      cases aside
  visited := by
    intro past traversal resets trail origin parcel node part hands trace transaction result runs
      exchange member id other same
    rcases List.mem_append.mp member with old | new
    · exact resets exchange old id other same
    · have follows : exchange.call.Follows node.id part := by
        rcases node.apply_asks runs with ⟨_, rest, rfl, asked⟩ | ⟨_, asked⟩
        · rcases List.mem_cons.mp new with rfl | later
          · cases same
          · exact asked exchange later
        · exact asked exchange new
      rw [same] at follows
      -- The one question of this sort gives the position of the part.
      rcases follows with aside | offers | serves
      · cases aside
      · cases offers
      · exact serves.2.trans hands.brings.1.context
  stopped resets _ _ _ _ _ _ := resets

/-- A visit belongs to a walk: its message is in the same unit of work, it comes from the node that
produced it, and brings an origin resource only if it is the one that the walk set out with. If it
came along an error route, all of its items are errors that were raised. -/
structure Pertains (router : Router) (top : Message) (visits : List Visit) (visit : Visit) :
    Prop where
  belongs : visit.message.BelongsTo top
  origin : visit.message.origin = none ∨ visit.message = top
  produced : ∃ trail parcel,
    router.Delivered top visits trail visit.message.sender parcel visit ∧
    (∀ item ∈ visit.message.data, item ∈ parcel.items) ∧
    ∀ batch, parcel = .error batch →
      ∀ failed ∈ batch.errors, Raised top visits trail visit.message.sender failed

/-- Each visit belongs to its walk. -/
theorem Delivered.pertains {visit : Visit}
    (delivered : router.Delivered top visits trail origin parcel visit) :
    router.Pertains top visits visit := by
  cases delivered with
  | of hands applied =>
    -- The message was brought by the last node of the trail, or came first of all.
    obtain ⟨belongs, sender, source, data⟩ := hands.brings
    refine ⟨belongs, source, trail, parcel, ?_, data, ?_⟩
    · rw [sender]
      exact .of hands applied
    · rintro batch rfl
      obtain ⟨message, sent, _⟩ := hands.sent
      rw [sender]
      exact sent.raised

/-- What a walk returns as unhandled is what it has left unhandled. -/
theorem walk_unhandled {depth : Nat} {trace : List Exchange} {traversal : Traversal}
    {results : Terminal}
    (runs : (router.walk depth message).Runs trace (traversal, .ok results)) :
    results.unhandled = traversal.unhandled := by
  -- The walk sets out with nothing unhandled, so what was added is all there is.
  obtain ⟨id, start, middle, walked, working, closing, rfl, traverses, resolves⟩ := walk_runs runs
  obtain ⟨_, adds, _, _, same⟩ := resolve_adds resolves
  rw [same, adds.unhandled]
  exact (List.append_nil _).symm

/-- Every message of a walk belongs to the one that it set out with, wherever it goes and however
the walk ends. Each visit pertains to it; each error that is left unhandled was raised in it; steps
are reset to its position; and only its metadata are shared. Where the walk is played in a world in
which nobody else is at work, whatever is asked about metadata is about these, as they are by then:
with everything that was written before, by whichever node. -/
theorem walk_belongs {depth : Nat} {trace : List Exchange} {traversal : Traversal}
    {result : Except RouteFailure Terminal}
    (runs : (router.walk depth message).Runs trace (traversal, result)) :
    ∃ id rest, trace = ⟨.openTransaction, id⟩ :: rest ∧
      (∀ visit ∈ traversal.visits,
        router.Pertains { message with transaction := some id } traversal.visits visit) ∧
      (∀ failed ∈ traversal.unhandled, ∃ trail origin,
        Raised { message with transaction := some id } traversal.visits trail origin failed) ∧
      (∀ results, result = .ok results → results.unhandled = traversal.unhandled) ∧
      Resets message.context trace ∧
      (∀ earlier exchange, (earlier ++ [exchange]) <+: trace →
        (∀ id metadata, exchange.call = .shareMetadata id metadata → metadata = message.metadata) ∧
        ∀ world before, router.Discreet world → message.metadata < world.metadata.length →
          world.Plays earlier before → ∀ about, before.concerns? exchange.call = some about →
            about = message.metadata ∧ before.metadataOf about =
              (earlier.filterMap (router.writing? world)).foldl Fields.merge
                (world.metadataOf about)) := by
  obtain ⟨id, rest, rfl, keeps⟩ := walk_keeps runs
  have accounted := keeps _ (accounted_chronicle router _) (accounted_opened router _ id)
  have resets := keeps _ (resets_chronicle router _) (by simp [Resets])
  -- Opening the transaction is no question to a collaborator.
  have attends := keeps _ (attends_chronicle router _)
    (@Attends.append _ _ [] _ .nil fun exchange only => apt_of_shared
      (List.mem_singleton.mp only ▸ rfl))
  refine ⟨id, rest, rfl, ?_, ?_, ?_, resets, ?_⟩
  · intro visit member
    obtain ⟨trail, origin, parcel, delivered⟩ := accounted.visits visit member
    exact delivered.pertains
  · intro failed member
    obtain ⟨trail, origin, batch, message, sent, among⟩ := accounted.unhandled failed member
    exact ⟨trail, origin, sent.raised failed among⟩
  · rintro results rfl
    exact walk_unhandled runs
  · intro earlier exchange before
    -- The world is left as the earlier exchanges have left it.
    have apt := attends earlier exchange before
    refine ⟨fun id metadata shares => (apt.shares id metadata shares).1, ?_⟩
    intro world later discreet there plays about concerned
    have attended : router.Attends message.metadata earlier := fun first next sooner =>
      attends first next (sooner.trans ((List.prefix_append ..).trans before))
    have tracks := tracks_of_plays discreet there attended plays
    obtain ⟨rfl, _⟩ := tracks.concerns discreet attended apt concerned
    exact ⟨rfl, tracks.holds⟩

/-- A step that cannot work on anything, and a shelf for what it could not work on. Both want to
know of metadata. -/
def scriptorium : Router where
  topology := ⟨[("inbox", ⟨["scribe"], [], []⟩), ("scribe", ⟨[], [], [⟨.root, ["shelf"]⟩]⟩)], [],
    ["inbox"], ["scribe", "shelf"], .builtIn⟩
  nodes := .ofList [{ Node.plain "scribe" .step "script_step" with metadataAware := true },
    { Node.plain "shelf" .sink "memory" with metadataAware := true }]

/-- A world in which the step signs the metadata, and the shelf takes a snapshot of them. -/
def abbey : World :=
  { World.empty with
    stations := [.fresh "scribe" (.step (.scripted
        ⟨[], .fail (.processing "smudged"), [], some [("signed", .string "scribe")]⟩)) none,
      .fresh "shelf" (.memory false) none]
    metadata := [[]] }

/-- Whether two visits went well, and the shelf has found the signature of the step. -/
def isSigned : World × Traversal × Except RouteFailure Terminal → Bool
  | (later, traversal, .ok _) =>
    traversal.visits.length == 2 && (later.view? "shelf").any fun view =>
      match view.snapshots with
      | [[("signed", .string "scribe")]] => true
      | _ => false
  | _ => false

/-- What the step could not work on is delivered to the shelf, in the same unit of work and with the
metadata that the step has signed. -/
theorem walk_belongs_abbey : ∃ trace later traversal result,
    (scriptorium.walk 3 ⟨"inbox", [.bool true], some (.string "first"), "one", none, none, 0⟩).Runs
      trace (traversal, result) ∧
    abbey.Plays trace later ∧ isSigned (later, traversal, result) = true ∧
    ∃ id, ∀ visit ∈ traversal.visits, scriptorium.Pertains
      ⟨"inbox", [.bool true], some (.string "first"), "one", some id, none, 0⟩
      traversal.visits visit := by
  obtain ⟨trace, later, ⟨traversal, result⟩, runs, plays, signed⟩ := World.exists_play abbey
    (scriptorium.walk 3 ⟨"inbox", [.bool true], some (.string "first"), "one", none, none, 0⟩)
    isSigned (by decide +kernel)
  -- What was played is a run, of which the general theorem speaks.
  obtain ⟨id, _, _, pertains, _⟩ := walk_belongs runs
  exact ⟨trace, later, traversal, result, runs, plays, signed, id, pertains⟩

end Router

end BatchFlow
