import BatchFlow.Proofs.Router.Destinations
import BatchFlow.Proofs.Work.Yields
import BatchFlow.Stage.Perform

/-! Whatever a node asks of the worlds that tests run in while it is applied is answered at once,
and the collaborators remain who they are. So what is agreed for honest answers is what a
performance comes to. -/

namespace BatchFlow.Stage

open Plan (Exchange)

namespace World

variable {world before middle after : World} {node : String}

/-- The collaborator of a node. -/
def actor? (world : World) (node : String) : Option Actor :=
  (world.station? node).map (·.actor)

/-- The resource that the collaborator of a node offers. -/
def offer? (world : World) (node : String) : Option Resource :=
  (world.station? node).bind (·.resource)

/-- The nodes have the same collaborators, which offer the same resources, and the resources have
the same scripts. -/
structure SameCast (before after : World) : Prop where
  actors : ∀ node, after.actor? node = before.actor? node
  offers : ∀ node, after.offer? node = before.offer? node
  resources : after.resources = before.resources

/-- A world has the cast that it has. -/
theorem SameCast.refl (world : World) : world.SameCast world :=
  ⟨fun _ => rfl, fun _ => rfl, rfl⟩

/-- A cast that stays for one change after another stays for both. -/
theorem SameCast.trans (first : before.SameCast middle) (second : middle.SameCast after) :
    before.SameCast after where
  actors node := (second.actors node).trans (first.actors node)
  offers node := (second.offers node).trans (first.offers node)
  resources := second.resources.trans first.resources

/-- Where neither the stations nor the resources change, nobody does. -/
theorem sameCast_of_eq (stations : after.stations = before.stations)
    (resources : after.resources = before.resources) : before.SameCast after where
  actors node := by rw [actor?, actor?, station?, station?, stations]
  offers node := by rw [offer?, offer?, station?, station?, stations]
  resources := resources

/-- What a change of a station leaves as it was is the same at every station. -/
theorem map_station?_putStation {α : Type} {station changed : Station} {get : Station → α}
    (found : world.station? node = some station) (here : changed.node = station.node)
    (same : get changed = get station) (other : String) :
    ((world.putStation changed).station? other).map get = (world.station? other).map get := by
  rw [station?_putStation, Option.map_map]
  refine Option.map_congr fun old first => ?_
  show get (if old.node == changed.node then changed else old) = get old
  split
  · -- The node is the one whose station changes, and this is the station that it has.
    rename_i own
    have named : other = node := by
      rw [← station?_node first, ← station?_node found, ← here]
      exact eq_of_beq own
    cases first.symm.trans (named ▸ found)
    exact same
  · rfl

/-- A station may change, but neither its node nor who is there nor what is offered. -/
theorem sameCast_putStation {station changed : Station} (found : world.station? node = some station)
    (here : changed.node = station.node) (stays : changed.actor = station.actor)
    (offers : changed.resource = station.resource) :
    world.SameCast (world.putStation changed) where
  -- Whoever is in a place is the same, and so is what is offered there.
  actors := map_station?_putStation found here stays
  offers other := by
    have same := congrArg (·.bind id) (map_station?_putStation found here offers other)
    simpa only [Option.bind_map, Function.id_comp, offer?] using same
  resources := rfl

/-- Everybody stays when something is noted. -/
theorem sameCast_note (world : World) (entry : Entry) : world.SameCast (world.note entry) :=
  sameCast_of_eq rfl rfl

/-- Everybody stays when a resource begins. -/
theorem sameCast_beginWork (world : World) (resource : Resource) :
    world.SameCast (world.beginWork resource).1 := by
  -- The world answers for a resource that is there, and notes what it did.
  unfold beginWork
  split
  · split
    · exact .refl world
    · exact world.sameCast_note _
  · exact .refl world

/-- Everybody stays when it commits. -/
theorem sameCast_commitWork (world : World) (resource : Resource) :
    world.SameCast (world.commitWork resource).1 := by
  unfold commitWork
  split
  · exact world.sameCast_note _
  · split
    · exact sameCast_of_eq rfl rfl
    · exact .refl world

/-- Everybody stays when it rolls back. -/
theorem sameCast_rollbackWork (world : World) (resource : Resource) (cause : String) :
    world.SameCast (world.rollbackWork resource cause).1 := by
  unfold rollbackWork
  split
  · exact world.sameCast_note _
  · split
    · exact sameCast_of_eq rfl rfl
    · exact .refl world

/-- Everybody stays when a collaborator is told of metadata: it may know more, but it is who it was.
-/
theorem sameCast_shareMetadata (world : World) (node : String) (metadata : Nat) :
    world.SameCast (world.shareMetadata node metadata) := by
  unfold shareMetadata
  split
  · rename_i station found
    exact sameCast_putStation found rfl rfl rfl
  · exact .refl world

/-- Everybody stays when a step is reset. -/
theorem sameCast_resetStep (world : World) (node : String) (context : Option Item) :
    world.SameCast (world.resetStep node context) := by
  -- Each scripted step takes note of the reset.
  have noted : ∀ (times : List Nat) (world : World),
      world.SameCast (times.foldl (fun world _ => world.note (.reset node context)) world) := by
    intro times
    induction times with
    | nil => exact SameCast.refl
    | cons _ rest ih => exact fun world => (world.sameCast_note _).trans (ih _)
  unfold resetStep
  split
  · exact noted _ world
  · exact .refl world

/-- Everybody stays when a step is applied, whatever it writes. -/
theorem sameCast_applyStep (world : World) (metadata : Option Nat) (node : String) (item : Item) :
    world.SameCast (world.applyStep metadata node item).1 := by
  unfold applyStep
  split
  · dsimp only
    split
    · exact sameCast_of_eq rfl rfl
    · exact .refl world
  · exact .refl world

/-- Everybody stays when items are delivered. -/
theorem sameCast_deliver (world : World) (metadata : Option Nat) (node : String)
    (items : List Item) : world.SameCast (world.deliver metadata node items).1 := by
  unfold deliver
  split
  · -- There is nobody to deliver to, or else the delivery is recorded in a way that depends on who
    -- it is.
    exact .refl world
  · rename_i station found
    split
    · exact sameCast_of_eq rfl rfl
    · exact sameCast_putStation found rfl rfl rfl
    · refine (sameCast_putStation found ?_ ?_ ?_).trans (sameCast_note _ _) <;> rfl
    · exact .refl world

/-- The collaborator of a node reads records from a table, if it reads any. -/
def ReadsTable (world : World) (node : String) : Prop :=
  ∀ enricher script, world.actor? node ≠ some (.enrich enricher (.scripted script))

/-- A cast that stays reads from the table as before. -/
theorem SameCast.readsTable (same : before.SameCast after) (reads : before.ReadsTable node) :
    after.ReadsTable node := by
  intro enricher script
  rw [same.actors]
  exact reads enricher script

/-- Whatever a node asks while it is applied is answered at once, if its reader does not take its
time, and everybody stays. -/
theorem answer_of_walk (reads : world.ReadsTable node) {call : Call}
    (asked : call.OfWalk (· = node)) :
    ∃ after reply, world.answer call = .reply after reply ∧ world.SameCast after := by
  cases call with
  -- All but the reading of records is answered at once by definition, and changes no cast.
  | log | openTransaction => exact ⟨_, _, rfl, sameCast_of_eq rfl rfl⟩
  | clock | nodeResource | parametersFor | enrichItem => exact ⟨_, _, rfl, .refl world⟩
  | beginWork resource => exact ⟨_, _, rfl, world.sameCast_beginWork resource⟩
  | commitWork resource => exact ⟨_, _, rfl, world.sameCast_commitWork resource⟩
  | rollbackWork resource cause => exact ⟨_, _, rfl, world.sameCast_rollbackWork resource cause⟩
  | shareMetadata id metadata => exact ⟨_, _, rfl, world.sameCast_shareMetadata id metadata⟩
  | resetStep id context => exact ⟨_, _, rfl, world.sameCast_resetStep id context⟩
  | applyStep id item => exact ⟨_, _, rfl, world.sameCast_applyStep _ id item⟩
  | deliver id items => exact ⟨_, _, rfl, world.sameCast_deliver _ id items⟩
  | readRecords id parameters timeout =>
    -- It is the node itself that reads, and its reader answers at once.
    obtain rfl : id = node := asked.applied rfl
    show ∃ after reply, world.readRecords id parameters timeout = _ ∧ _
    unfold readRecords
    split
    · exact ⟨_, _, rfl, .refl world⟩
    · -- A scripted reader may take its time, but there is none.
      rename_i found
      exact absurd (congrArg (Option.map Station.actor) found) (reads _ _)
    · exact ⟨_, _, rfl, .refl world⟩
  | _ => simp [Call.OfWalk, Call.applied?, Call.isShared] at asked

end World

/-- What some world with a certain cast answers. -/
def Honest (cast : World) : Exchange → Prop := fun exchange =>
  ∃ world after, cast.SameCast world ∧ world.answer exchange.call = .reply after exchange.reply

/-- A plan that keeps to what a node may ask is performed to its end, and that is as agreed for
honest answers. -/
theorem World.perform_of_yields {ρ : Type} {cast world : World} {node : String} {plan : Plan ρ}
    {ends kept : ρ → Prop} (reads : cast.ReadsTable node) (same : cast.SameCast world)
    (confined : plan.Confined (Call.OfWalk (· = node)) False kept)
    (yields : plan.Yields (Honest cast) ends) :
    ∃ after result, world.perform plan = (after, .finished result) ∧ cast.SameCast after ∧
      ends result := by
  -- The world may change with each answer, as long as its cast stays.
  induction plan generalizing world with
  | done result => exact ⟨world, result, rfl, same, yields⟩
  | ask call next ih =>
    obtain ⟨after, reply, answered, stays⟩ := answer_of_walk (same.readsTable reads) confined.1
    obtain ⟨last, result, performed, kept, agreed⟩ :=
      ih reply (same.trans stays) (confined.2 reply () rfl) (yields reply ⟨_, _, same, answered⟩)
    exact ⟨last, result, (by rw [perform, answered]; exact performed), kept, agreed⟩
  | starved => exact confined.elim

end BatchFlow.Stage
