import BatchFlow.Proofs.Node.Calls
import BatchFlow.Stage.Answer

/-! What the collaborator of a node knows of the metadata of messages. Only two questions change it,
and no question changes metadata that it is not about. -/

namespace BatchFlow

/-- A question that may change what a collaborator is or has, or some metadata. -/
def Call.isHandling : Call → Bool
  | .connectNode _ | .disconnectNode _ | .shareMetadata .. | .applyStep .. | .deliver ..
  | .newMetadata => true
  | _ => false

namespace Stage

/-- What a collaborator is, the metadata that it was told of last, and the snapshots it took. -/
structure MetadataView where
  actor : Actor
  heard : Option Nat
  snapshots : List Fields

/-- What a collaborator knows. -/
def Station.view (station : Station) : MetadataView :=
  ⟨station.actor, station.metadata, station.snapshots⟩

namespace MetadataView

/-- The collaborator takes a snapshot of what is in some metadata, if it is one that does. -/
def record (view : MetadataView) (contents : Option Fields) : MetadataView :=
  match view.actor with
  | .memory _ => { view with snapshots := view.snapshots ++ contents.toList }
  | _ => view

/-- What the collaborator of a node knows after a question about metadata with certain contents. -/
def heed (view : MetadataView) (node : String) (contents : Option Fields) : Call → MetadataView
  | .shareMetadata id metadata => if id = node then { view with heard := some metadata } else view
  | .deliver id _ => if id = node then view.record contents else view
  | _ => view

end MetadataView

/-- Whether a question to a collaborator is about metadata at all. -/
def Actor.minds : Actor → Call → Bool
  | .step work, .applyStep .. => work.writes?.isSome
  | .memory _, .deliver .. => true
  | _, _ => false

/-- The world that an answer leaves. -/
def Answer.world {call : Call} : Answer call → World
  | .reply world _ | .wait world _ | .panic world => world

/-- The replies that an answer may come to; after a wait it may be any. -/
inductive Answer.Gives {call : Call} : Answer call → World → call.Reply → Prop where
  | reply (world : World) (reply : call.Reply) : Gives (.reply world reply) world reply
  | wait (world : World) (wait : Wait call) (reply : call.Reply) :
    Gives (.wait world wait) world reply

/-- The world that a reply comes from is the one that the answer leaves. -/
theorem Answer.Gives.world_eq {call : Call} {answer : Answer call} {later : World}
    {reply : call.Reply} (gives : answer.Gives later reply) : later = answer.world := by
  cases gives <;> rfl

namespace World

variable {world later : World} {node : String} {call : Call}

/-- What the collaborator of a node knows. -/
def view? (world : World) (node : String) : Option MetadataView :=
  (world.station? node).map (·.view)

/-- Where the collaborators are the same, they know the same. -/
theorem view?_congr (same : later.stations = world.stations) :
    later.view? node = world.view? node := by
  unfold view? station?
  rw [same]

/-- Who takes the place of a collaborator is known in its place, and the others as before. -/
theorem view?_putStation {station changed : Station}
    (found : world.station? changed.node = some station) :
    (world.putStation changed).view? node =
      if changed.node = node then some changed.view else world.view? node := by
  unfold view?
  -- A collaborator is put in the place of the one that has its name.
  rw [station?_putStation]
  by_cases same : changed.node = node
  · subst same
    simp [found, station?_node found]
  · cases other : world.station? node with
    | none => simp [same]
    | some old =>
      have apart : old.node ≠ changed.node := by
        rw [station?_node other]
        exact Ne.symm same
      simp [same, apart]

/-- A question is about metadata if its collaborator minds them, and then about what it was told of
last. -/
theorem concerns?_eq_some_iff {metadata : Nat} :
    world.concerns? call = some metadata ↔ ∃ node view, call.applied? = some node ∧
      world.view? node = some view ∧ view.actor.minds call = true ∧ view.heard = some metadata := by
  -- Steps and deliveries may be about metadata, which their actor may or may not mind.
  cases call with
  | applyStep node item =>
    cases found : world.station? node with
    | none => simp [concerns?, found, Call.applied?, view?]
    | some station =>
      obtain ⟨_, actor, _, _, _, _, _, heard⟩ := station
      cases actor <;> simp [concerns?, found, Call.applied?, view?, Station.view, Actor.minds]
  | deliver node items =>
    cases found : world.station? node with
    | none => simp [concerns?, found, Call.applied?, view?]
    | some station =>
      obtain ⟨_, actor, _, _, _, _, _, heard⟩ := station
      cases actor <;> simp [concerns?, found, Call.applied?, view?, Station.view, Actor.minds]
  | _ => simp [concerns?, Actor.minds]

/-- The collaborators and the metadata. -/
def holdings (world : World) : List Station × List Fields := (world.stations, world.metadata)

/-- Notes about what was asked leave the collaborators and the metadata alone. -/
theorem holdings_foldl_note {α : Type} (entry : α → Entry) (list : List α) (world : World) :
    (list.foldl (fun world element => world.note (entry element)) world).holdings =
      world.holdings := by
  induction list generalizing world with
  | nil => rfl
  | cons first rest ih => exact ih _

/-- Waiting for a reply changes nothing. -/
theorem holdings_after (world : World) (delay : Nat) (reply ifCancelled : Option call.Reply) :
    (world.after delay reply ifCancelled).world.holdings = world.holdings := by
  unfold after
  split
  · cases reply <;> rfl
  · rfl

/-- A queue that goes on polling leaves them alone. -/
theorem holdings_goOnPolling (world : World) (key : Nat) (timeout : Duration)
    (producer : QueueProducer) (poller : Handoff.Poller) (due : Nat) :
    (world.goOnPolling key timeout producer poller due).world.holdings = world.holdings := by
  -- Whether it polls on or stops, what it changes is the queue and the clock.
  unfold goOnPolling
  dsimp only
  split
  · rfl
  · split <;> rfl

/-- So does any poll of a producer. -/
theorem holdings_poll (world : World) (key : Nat) (timeout : Duration) :
    (world.poll key timeout).world.holdings = world.holdings := by
  -- A listed producer, a queue, a producer that replies from a script, and none at all.
  unfold poll
  split
  · split <;> rfl
  · exact holdings_goOnPolling ..
  · dsimp only
    split <;> exact holdings_after ..
  · rfl

/-- Records are read with no change to the collaborators or the metadata. -/
theorem holdings_readRecords (world : World) (node : String) (parameters : Option Item)
    (timeout : Duration) :
    (world.readRecords node parameters timeout).world.holdings = world.holdings := by
  -- Only a reader that takes its time does more than answer, and then it waits.
  unfold readRecords
  split
  · rfl
  · dsimp only
    split <;> exact holdings_after ..
  · rfl

/-- A step is reset with no change to the collaborators or the metadata. -/
theorem holdings_resetStep (world : World) (node : String) (context : Option Item) :
    (world.resetStep node context).holdings = world.holdings := by
  -- What a reset leaves is a note for each scripted step.
  unfold resetStep
  split
  · exact holdings_foldl_note _ _ _
  · rfl

/-- Most questions leave all the collaborators and the metadata alone. -/
theorem holdings_answerAbout (world : World) (about : Option Nat)
    (aside : call.isHandling = false) :
    (world.answerAbout about call).world.holdings = world.holdings := by
  cases call with
  | connectNode | disconnectNode | shareMetadata | applyStep | deliver | newMetadata => cases aside
  | resetStep node context => exact holdings_resetStep world node context
  | readRecords node parameters timeout => exact holdings_readRecords world node parameters timeout
  | poll key timeout => exact holdings_poll world key timeout
  | pause delay => exact holdings_after ..
  -- These note the question, or what has become of a resource or a producer.
  | beginWork | commitWork | rollbackWork | connectProducer | disconnectProducer
  | shutdownProducer | setContext | onTerminal =>
    simp only [answerAbout, beginWork, commitWork, rollbackWork, connectProducer,
      disconnectProducer, shutdownProducer, setContext, onTerminal]
    (repeat' split) <;> rfl
  | _ => rfl

/-- A collaborator that is changed in its place is known as what it is then. -/
theorem view?_changed {id : String} {station changed : Station}
    (found : world.station? id = some station) (named : changed.node = station.node) :
    (world.putStation changed).view? node =
      if id = node then some changed.view else world.view? node := by
  obtain rfl := named.trans (station?_node found)
  exact view?_putStation found

/-- A collaborator whose connections are counted knows what it knew before. -/
theorem view?_recounted {id : String} {station changed : Station}
    (found : world.station? id = some station) (named : changed.node = station.node)
    (known : changed.view = station.view) :
    (world.putStation changed).view? node = world.view? node := by
  -- Either it is the one that is looked up, or another one.
  rw [view?_changed found named, known]
  split
  · rename_i same
    simp [view?, ← same, found]
  · rfl

/-- A collaborator that is connected knows what it knew. -/
theorem view?_connectNode (world : World) (id node : String) :
    (world.connectNode id).1.view? node = world.view? node := by
  unfold connectNode
  split
  · rfl
  · rename_i station found
    dsimp only
    -- The connections are counted, whether this one fails or not.
    split <;> exact view?_recounted found rfl rfl

/-- So does one that is disconnected. -/
theorem view?_disconnectNode (world : World) (id node : String) :
    (world.disconnectNode id).1.view? node = world.view? node := by
  -- There is somebody to disconnect or there is not, and the counting is of one or another sort.
  unfold disconnectNode
  split
  · rfl
  · rename_i station found
    dsimp only
    split <;> exact view?_recounted found rfl rfl

/-- A step that is applied to an item may write metadata, but it comes to know nothing. -/
theorem view?_applyStep (world : World) (about : Option Nat) (id : String) (item : Item)
    (node : String) : (world.applyStep about id item).1.view? node = world.view? node := by
  unfold applyStep
  split
  · dsimp only
    split <;> rfl
  · rfl

/-- A collaborator that is told of metadata knows what it was told of last. -/
theorem view?_shareMetadata (world : World) (id : String) (metadata : Nat) (node : String) :
    (world.shareMetadata id metadata).view? node =
      (world.view? node).map fun view => view.heed node none (.shareMetadata id metadata) := by
  unfold shareMetadata MetadataView.heed
  cases found : world.station? id with
  | none =>
    -- There is no such collaborator, and so nobody knows anything in its place.
    by_cases same : id = node
    · simp [view?, ← same, found]
    · simp [same]
  | some station =>
    dsimp only
    rw [view?_changed found (by rfl)]
    by_cases same : id = node
    · simp [view?, ← same, found, Station.view]
    · simp [same]

/-- A collaborator that items are delivered to may take a snapshot of the metadata it is about. -/
theorem view?_deliver (world : World) (about : Option Nat) (id : String) (items : List Item)
    (node : String) :
    (world.deliver about id items).1.view? node = (world.view? node).map fun view =>
      view.heed node (about.map world.metadataOf) (.deliver id items) := by
  unfold deliver MetadataView.heed
  cases found : world.station? id with
  | none =>
    by_cases same : id = node
    · simp [view?, ← same, found]
    · simp [same]
  | some station =>
    dsimp only
    -- Whatever takes no snapshots knows nothing new.
    have unimpressed : (∀ reply, station.actor ≠ .memory reply) →
        (world.view? node).map (fun view => if id = node then
          view.record (about.map world.metadataOf) else view) = world.view? node := by
      intro apart
      -- In its place it is known as it was, for its role is not one that records.
      by_cases same : id = node
      · cases role : station.actor with
        | memory reply => exact absurd role (apart reply)
        | _ => simp [view?, ← same, found, Station.view, MetadataView.record, role]
      · simp [same]
    cases role : station.actor with
    | memory reply =>
      dsimp only
      rw [view?_changed found (by rfl)]
      by_cases same : id = node
      · cases about <;> simp [view?, ← same, found, Station.view, MetadataView.record, role]
      · simp [same]
    -- Only the number of its deliveries has changed.
    | scriptedSink script =>
      rw [unimpressed (by simp [role])]
      exact view?_recounted found rfl (by simp [Station.view, role])
    | step | stdout | enrich => exact (unimpressed (by simp [role])).symm

/-- Only two questions change what the collaborator of a node knows. -/
theorem view?_answerAbout (about : Option Nat) (call : Call) (node : String) :
    (world.answerAbout about call).world.view? node =
      (world.view? node).map fun view => view.heed node (about.map world.metadataOf) call := by
  -- No heed is paid to any other question.
  have unheeded {later : World} (same : later.view? node = world.view? node)
      (aside : ∀ view : MetadataView, view.heed node (about.map world.metadataOf) call = view) :
      later.view? node =
        (world.view? node).map fun view => view.heed node (about.map world.metadataOf) call := by
    simp [same, aside]
  cases handling : call.isHandling with
  -- What is no handling leaves all that the collaborators hold as it is.
  | false =>
    have same : (world.answerAbout about call).world.view? node = world.view? node :=
      view?_congr (congrArg Prod.fst (holdings_answerAbout world about handling))
    cases call with
    | shareMetadata | deliver => cases handling
    | _ => exact unheeded same fun _ => rfl
  | true =>
    -- Handlings change a collaborator, and only two of them change what it knows.
    cases call with
    | connectNode id => exact unheeded (view?_connectNode world id node) fun _ => rfl
    | disconnectNode id => exact unheeded (view?_disconnectNode world id node) fun _ => rfl
    | applyStep id item => exact unheeded (view?_applyStep world about id item node) fun _ => rfl
    | newMetadata => exact unheeded (view?_congr rfl) fun _ => rfl
    | shareMetadata id metadata => exact view?_shareMetadata world id metadata node
    | deliver id items => exact view?_deliver world about id items node
    | _ => cases handling

/-- The metadata of messages stay as they are when a collaborator is connected. -/
theorem metadata_connectNode (world : World) (id : String) :
    (world.connectNode id).1.metadata = world.metadata := by
  unfold connectNode
  split
  · rfl
  · dsimp only
    split <;> rfl

/-- They stay when it is disconnected. -/
theorem metadata_disconnectNode (world : World) (id : String) :
    (world.disconnectNode id).1.metadata = world.metadata := by
  unfold disconnectNode
  split
  · rfl
  · dsimp only
    split <;> rfl

/-- They stay when it is told of some of them. -/
theorem metadata_shareMetadata (world : World) (id : String) (metadata : Nat) :
    (world.shareMetadata id metadata).metadata = world.metadata := by
  unfold shareMetadata
  split <;> rfl

/-- They stay when items are delivered to it: a snapshot is a copy. -/
theorem metadata_deliver (world : World) (about : Option Nat) (id : String) (items : List Item) :
    (world.deliver about id items).1.metadata = world.metadata := by
  unfold deliver
  split
  · rfl
  · split <;> rfl

/-- A step writes into the metadata that it is told, and into no other. -/
theorem metadataOf_applyStep {about : Option Nat} {metadata : Nat} (apart : about ≠ some metadata)
    (id : String) (item : Item) :
    (world.applyStep about id item).1.metadataOf metadata = world.metadataOf metadata := by
  unfold applyStep
  split
  · dsimp only
    split
    · -- It writes into the metadata it is about, and these are others.
      rw [ne_eq, Option.some_inj] at apart
      simp [metadataOf, writeMetadata, apart]
    · rfl
  · rfl

/-- The metadata of a new message is empty, and leaves that of the others as it is. -/
theorem metadataOf_addMetadata (world : World) (metadata : Nat) :
    (world.addMetadata []).1.metadataOf metadata = world.metadataOf metadata := by
  unfold addMetadata metadataOf
  -- What there was not before is empty, as what is made now is.
  rcases Nat.lt_or_ge metadata world.metadata.length with below | beyond
  · simp [List.getElem?_append_left below]
  · rw [List.getElem?_append_right beyond, List.getElem?_eq_none beyond]
    cases metadata - world.metadata.length <;> rfl

/-- A question changes no metadata that it is not about. -/
theorem metadataOf_answerAbout {about : Option Nat} {metadata : Nat} (apart : about ≠ some metadata)
    (call : Call) :
    (world.answerAbout about call).world.metadataOf metadata = world.metadataOf metadata := by
  have kept {later : World} (same : later.metadata = world.metadata) :
      later.metadataOf metadata = world.metadataOf metadata := by
    rw [metadataOf, metadataOf, same]
  -- Only the handling of a node touches metadata, and each sort of it has its own lemma.
  cases handling : call.isHandling with
  | false => exact kept (congrArg Prod.snd (holdings_answerAbout world about handling))
  | true =>
    cases call with
    | connectNode id => exact kept (metadata_connectNode world id)
    | disconnectNode id => exact kept (metadata_disconnectNode world id)
    | shareMetadata id other => exact kept (metadata_shareMetadata world id other)
    | deliver id items => exact kept (metadata_deliver world about id items)
    | applyStep id item => exact metadataOf_applyStep apart id item
    | newMetadata => exact metadataOf_addMetadata world metadata
    | _ => cases handling

end World

end Stage

end BatchFlow
