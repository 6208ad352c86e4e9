import BatchFlow.Proofs.Metadata.ConcurrentMessages

/-! What nodes read and write of metadata, where all of them are told of the same and nobody else is
at work. -/

namespace BatchFlow

open Plan (Exchange)

/-- Whether somebody tells the collaborator of a node of metadata. -/
def tells (id : String) (exchange : Exchange) : Bool :=
  match exchange.call with
  | .shareMetadata other _ => other == id
  | _ => false

/-- A node that is applied to a message shares the metadata first, if it wants to know of them, and
then asks what follows. -/
theorem Node.apply_asks (node : Node) {message : Message} {before after : Transaction}
    {trace : List Exchange} {result : Except RouteFailure Response}
    (runs : (node.apply message before).Runs trace (after, result)) :
    (node.metadataAware = true ∧ ∃ rest,
      trace = ⟨.shareMetadata node.id message.metadata, ()⟩ :: rest ∧
      ∀ exchange ∈ rest, exchange.call.Follows node.id message) ∨
    (node.metadataAware = false ∧ ∀ exchange ∈ trace, exchange.call.Follows node.id message) := by
  cases aware : node.metadataAware with
  | true =>
    rw [node.apply_aware aware] at runs
    -- To share is the first question, and then the message is processed.
    obtain ⟨_, rest, rfl, processed⟩ := Plan.runs_ask_iff.mp runs
    exact .inl ⟨rfl, rest, rfl, ((node.process_confined message before).runs processed).1⟩
  | false =>
    have unshared : node.apply message before = node.process message before := by
      rw [apply_eq, shareMetadata, if_neg (by simp [aware])]
      rfl
    rw [unshared] at runs
    exact .inr ⟨rfl, ((node.process_confined message before).runs runs).1⟩

namespace Router

/-- A question that may follow others where everybody knows of the same metadata: only those are
shared, with nodes that want to know of them; and whoever wants to know has been told when it is
asked for anything else. -/
structure Apt (router : Router) (metadata : Nat) (past : List Exchange) (exchange : Exchange) :
    Prop where
  shares : ∀ id other, exchange.call = .shareMetadata id other → other = metadata ∧
    ∃ node, router.nodes.get? id = some node ∧ node.metadataAware = true
  told : ∀ id, exchange.call.applied? = some id → ∃ node, router.nodes.get? id = some node ∧
    (node.metadataAware = true → tells id exchange = true ∨ past.any (tells id) = true)

/-- Every question is apt at its time. -/
def Attends (router : Router) (metadata : Nat) (past : List Exchange) : Prop :=
  ∀ earlier exchange, (earlier ++ [exchange]) <+: past → router.Apt metadata earlier exchange

variable {router : Router} {metadata : Nat} {past trace : List Exchange} {exchange : Exchange}

/-- Who has been told once need not be told again. -/
theorem Apt.later (apt : router.Apt metadata past exchange) (more : List Exchange) :
    router.Apt metadata (past ++ more) exchange where
  shares := apt.shares
  told id applied := by
    obtain ⟨node, registered, told⟩ := apt.told id applied
    exact ⟨node, registered, fun aware => (told aware).imp_right fun before => by simp [before]⟩

/-- A question about the transaction is apt at any time. -/
theorem apt_of_shared (shared : exchange.call.isShared = true) :
    router.Apt metadata past exchange := by
  -- Such a question neither shares metadata nor is put to a collaborator.
  obtain ⟨call, reply⟩ := exchange
  constructor
  · rintro id other rfl
    cases shared
  · intro id applied
    cases call <;> simp [Call.applied?, Call.isShared] at applied shared

namespace Attends

/-- Nothing has been asked yet. -/
theorem nil : router.Attends metadata [] := fun earlier exchange before => by
  simp at before

/-- Further questions may be asked if each of them is apt after the ones before. -/
theorem append (attends : router.Attends metadata past)
    (apt : ∀ exchange ∈ trace, router.Apt metadata past exchange) :
    router.Attends metadata (past ++ trace) := by
  -- The latest question comes after all the others, so the induction takes it away.
  induction trace using List.reverseRecOn with
  | nil => simpa using attends
  | append_singleton trace last ih =>
    intro earlier exchange before
    rw [← List.append_assoc] at before
    rcases List.prefix_concat_iff.mp before with same | sooner
    · obtain ⟨rfl, latest⟩ := List.append_inj' same rfl
      cases latest
      exact (apt last (by simp)).later trace
    · exact ih (fun other member => apt other (by simp [member])) earlier exchange sooner

/-- What was asked before some questions was apt without them. -/
theorem of_append (attends : router.Attends metadata (past ++ trace)) :
    router.Attends metadata past :=
  fun earlier exchange before => attends earlier exchange (before.trans (List.prefix_append ..))

/-- Only who wants to know is told. -/
theorem aware (attends : router.Attends metadata past) {id : String}
    (told : past.any (tells id) = true) :
    ∃ node, router.nodes.get? id = some node ∧ node.metadataAware = true := by
  obtain ⟨⟨call, reply⟩, member, tells⟩ := List.any_eq_true.mp told
  -- What was told earlier was apt when it was told.
  obtain ⟨before, after, rfl⟩ := List.append_of_mem member
  have apt := attends before ⟨call, reply⟩ (by simp)
  cases call with
  | shareMetadata other metadata =>
    obtain rfl : other = id := by simpa [BatchFlow.tells] using tells
    exact (apt.shares other metadata rfl).2
  | _ => cases tells

end Attends

/-- A node that is applied to a message asks what is apt. -/
theorem attends_apply {node : Node} {message : Message} {before after : Transaction}
    {result : Except RouteFailure Response} (registered : router.nodes.get? node.id = some node)
    (shared : message.metadata = metadata) (attends : router.Attends metadata past)
    (runs : (node.apply message before).Runs trace (after, result)) :
    router.Attends metadata (past ++ trace) := by
  -- Once the metadata have been shared, they are not shared again.
  have follows : ∀ {past rest : List Exchange},
      (node.metadataAware = true → past.any (tells node.id) = true) →
      (∀ exchange ∈ rest, exchange.call.Follows node.id message) →
      ∀ exchange ∈ rest, router.Apt metadata past exchange := by
    intro past rest told asked exchange member
    rcases asked exchange member with aside | offers | serves
    · -- The node is asked for its resource.
      exact apt_of_shared aside
    · refine ⟨fun id other same => ?_, fun id applied => ?_⟩
      · cases offers.symm.trans same
      · rw [offers] at applied
        cases applied
        exact ⟨node, registered, fun aware => .inr (told aware)⟩
    · -- Its collaborator is asked for something on behalf of the message.
      refine ⟨fun id other same => absurd same (asked exchange member).ne_shareMetadata,
        fun id applied => ?_⟩
      obtain rfl := serves.applied_eq applied
      exact ⟨node, registered, fun aware => .inr (told aware)⟩
  rcases node.apply_asks runs with ⟨aware, rest, rfl, asked⟩ | ⟨unaware, asked⟩
  · -- First of all the collaborator is told.
    have told : router.Attends metadata
        (past ++ [⟨.shareMetadata node.id message.metadata, ()⟩]) := by
      refine attends.append fun exchange only => ?_
      cases List.mem_singleton.mp only
      refine ⟨?_, ?_⟩
      · rintro id other ⟨⟩
        exact ⟨shared, node, registered, aware⟩
      · rintro id ⟨⟩
        exact ⟨node, registered, fun _ => .inl (by simp [tells])⟩
    have later := told.append (follows (fun _ => by simp [tells]) asked)
    simpa using later
  · exact attends.append (follows (fun aware => by simp [unaware] at aware) asked)

end Router

namespace Stage

open Router (Attends Apt)

/-- The fields that a collaborator writes into metadata for each item that it is applied to. -/
def Actor.writes? : Actor → Option Fields
  | .step work => work.writes?
  | _ => none

/-- Only who writes minds metadata when it is applied to an item. -/
theorem Actor.minds_applyStep (actor : Actor) (id : String) (item : Item) :
    actor.minds (.applyStep id item) = actor.writes?.isSome := by
  cases actor <;> rfl

namespace World

/-- What becomes of a world in which some questions are answered, and nothing else happens. -/
inductive Plays (world : World) : List Exchange → World → Prop where
  | start : Plays world [] world
  | answered {past : List Exchange} {middle later : World} {call : Call} {reply : call.Reply}
      (plays : Plays world past middle) (given : (middle.answer call).Gives later reply) :
    Plays world (past ++ [⟨call, reply⟩]) later

/-- Whatever a first answer leads to can be followed from before it. -/
theorem Plays.cons {call : Call} {reply : call.Reply} {world middle later : World}
    {rest : List Exchange} (given : (world.answer call).Gives middle reply)
    (plays : middle.Plays rest later) : world.Plays (⟨call, reply⟩ :: rest) later := by
  -- The run grows at its end, so the induction is on the questions after the first.
  induction plays with
  | start => exact .answered .start given
  | answered _ last ih => exact .answered ih last

/-- Carries a plan out in a world in which nothing else happens, as far as it is answered at
once. -/
def play {ρ : Type} : Plan ρ → World → Option (List Exchange × World × ρ)
  | .done result, world => some ([], world, result)
  | .ask call next, world =>
    match world.answer call with
    | .reply middle reply =>
      (play (next reply) middle).map fun (rest, ended) => (⟨call, reply⟩ :: rest, ended)
    | _ => none
  | .starved, _ => none

/-- What is carried out is a run, and the world has been asked no more. -/
theorem plays_of_play {ρ : Type} {plan : Plan ρ} {world later : World} {trace : List Exchange}
    {result : ρ} (played : play plan world = some (trace, later, result)) :
    plan.Runs trace result ∧ world.Plays trace later := by
  induction plan generalizing world trace with
  | done value =>
    cases played
    exact ⟨.done _, .start⟩
  | ask call next ih =>
    simp only [play] at played
    -- The world answers the first question, and is asked the others in the state it is left in.
    split at played
    · rename_i middle reply given
      obtain ⟨⟨rest, ended⟩, further, same⟩ := Option.map_eq_some_iff.mp played
      cases same
      obtain ⟨runs, plays⟩ := ih reply further
      exact ⟨.ask _ _ _ _ _ runs, .cons (given ▸ .reply middle reply) plays⟩
    · cases played
  | starved => cases played

/-- A plan that is carried out in a world, with something that can be checked there. -/
theorem exists_play {ρ : Type} (world : World) (plan : Plan ρ) (check : World × ρ → Bool)
    (checked : (play plan world).any (fun ended => check ended.2) = true) :
    ∃ trace later result, plan.Runs trace result ∧ world.Plays trace later ∧
      check (later, result) = true := by
  -- The check has found something that was played.
  obtain ⟨⟨trace, later, result⟩, played, holds⟩ := (Option.any_eq_true _ _).mp checked
  obtain ⟨runs, plays⟩ := plays_of_play played
  exact ⟨trace, later, result, runs, plays, holds⟩

/-- No question makes metadata disappear. -/
theorem length_metadata_answerAbout (world : World) (about : Option Nat) (call : Call) :
    world.metadata.length ≤ (world.answerAbout about call).world.metadata.length := by
  have kept {later : World} (same : later.metadata = world.metadata) :
      world.metadata.length ≤ later.metadata.length :=
    Nat.le_of_eq (congrArg List.length same.symm)
  -- Metadata are added and written, and nothing else is done with them.
  cases handling : call.isHandling with
  | false => exact kept (congrArg Prod.snd (holdings_answerAbout world about handling))
  | true =>
    cases call with
    | connectNode id => exact kept (metadata_connectNode world id)
    | disconnectNode id => exact kept (metadata_disconnectNode world id)
    | shareMetadata id other => exact kept (metadata_shareMetadata world id other)
    | deliver id items => exact kept (metadata_deliver world about id items)
    | newMetadata => simp [answerAbout, Answer.world, addMetadata]
    | applyStep id item =>
      simp only [answerAbout, Answer.world, applyStep]
      split
      · split <;> simp [writeMetadata]
      · exact Nat.le_refl _
    | _ => cases handling

/-- Something written by the step that a question is put to. -/
theorem metadataOf_applyStep_of_writes {world : World} {metadata : Nat} {id : String}
    {view : MetadataView} {fields : Fields} (known : world.view? id = some view)
    (writes : view.actor.writes? = some fields)
    (there : metadata < world.metadata.length) (item : Item) :
    (world.applyStep (some metadata) id item).1.metadataOf metadata =
      (world.metadataOf metadata).merge fields := by
  obtain ⟨station, found, rfl⟩ := Option.map_eq_some_iff.mp known
  -- Nobody but a step writes anything.
  obtain ⟨_, actor, _, _, _, _, _, heard⟩ := station
  cases actor with
  | step step =>
    have writes : step.writes? = some fields := writes
    simp [applyStep, found, writes, metadataOf, writeMetadata, there]
  | _ => cases writes

end World

end Stage

namespace Router

open Stage (World MetadataView)

variable {router : Router} {metadata : Nat} {past : List Exchange} {exchange : Exchange}
  {world later : World}

/-- What a question has written into metadata, by a node that has been told which. -/
def writing? (router : Router) (world : World) (exchange : Exchange) : Option Fields :=
  match exchange.call with
  | .applyStep id _ => (router.nodes.get? id).bind fun node =>
    if node.metadataAware then ((world.view? id).map (·.actor)).bind (·.writes?) else none
  | _ => none

/-- The collaborators of nodes that do not want to know of metadata know of none. -/
def Discreet (router : Router) (world : World) : Prop :=
  ∀ id node view, router.nodes.get? id = some node → node.metadataAware = false →
    world.view? id = some view → view.heard = none

/-- What there is to know after some questions: everybody who was told knows of the metadata, and
these hold what was written. -/
structure Tracks (router : Router) (metadata : Nat) (world : World) (past : List Exchange)
    (later : World) : Prop where
  knows : ∀ id, (later.view? id).map (fun view => (view.actor, view.heard)) =
    (world.view? id).map fun view =>
      (view.actor, if past.any (tells id) then some metadata else view.heard)
  there : metadata < later.metadata.length
  holds : later.metadataOf metadata =
    (past.filterMap (router.writing? world)).foldl Fields.merge (world.metadataOf metadata)

/-- What a collaborator knows when it is asked for something. -/
theorem Tracks.heard (tracks : router.Tracks metadata world past later)
    (discreet : router.Discreet world) (attends : router.Attends metadata past)
    (apt : router.Apt metadata past exchange) {id : String}
    (applied : exchange.call.applied? = some id) (asks : tells id exchange = false)
    {view : MetadataView} (known : later.view? id = some view) :
    ∃ node, router.nodes.get? id = some node ∧
      view.heard = if node.metadataAware then some metadata else none := by
  obtain ⟨node, registered, told⟩ := apt.told id applied
  have gist := tracks.knows id
  rw [known] at gist
  -- Who has been told knows of the metadata; the others know of none, as at first.
  obtain ⟨first, began, same⟩ := Option.map_eq_some_iff.mp gist.symm
  obtain ⟨-, heard⟩ := Prod.mk.inj same
  refine ⟨node, registered, ?_⟩
  by_cases aware : node.metadataAware = true
  · have before : past.any (tells id) = true := (told aware).resolve_left (by simp [asks])
    simpa [aware, before] using heard.symm
  · -- Nobody tells a node that does not want to know.
    have untold : past.any (tells id) = false := by
      refine Bool.eq_false_iff.mpr fun before => aware ?_
      obtain ⟨other, found, wants⟩ := attends.aware before
      cases registered.symm.trans found
      exact wants
    have silent : first.heard = none :=
      discreet id node first registered (by simpa using aware) began
    simpa [aware, untold, silent] using heard.symm

/-- A question about metadata is about those that all were told of. -/
theorem Tracks.concerns (tracks : router.Tracks metadata world past later)
    (discreet : router.Discreet world) (attends : router.Attends metadata past)
    (apt : router.Apt metadata past exchange) {about : Nat}
    (concerned : later.concerns? exchange.call = some about) :
    about = metadata ∧ ∃ id node view, exchange.call.applied? = some id ∧
      router.nodes.get? id = some node ∧ node.metadataAware = true ∧
      later.view? id = some view ∧ view.actor.minds exchange.call = true := by
  -- Who minds the question is not the one that tells, so it was told before.
  obtain ⟨id, view, applied, known, minds, heard⟩ := World.concerns?_eq_some_iff.mp concerned
  have asks : tells id exchange = false := by
    obtain ⟨call, reply⟩ := exchange
    cases call with
    | shareMetadata => simp [Stage.Actor.minds] at minds
    | _ => rfl
  obtain ⟨node, registered, hears⟩ := tracks.heard discreet attends apt applied asks known
  rw [heard] at hears
  split at hears
  · rename_i aware
    exact ⟨Option.some_inj.mp hears, id, node, view, applied, registered, aware, known, minds⟩
  · cases hears

/-- The collaborators are still what they were, and would write the same. -/
theorem Tracks.writing?_eq (tracks : router.Tracks metadata world past later)
    (exchange : Exchange) :
    router.writing? world exchange = router.writing? later exchange := by
  -- The tracks tell what everybody is, now as before.
  have actor : ∀ id, (later.view? id).map (·.actor) = (world.view? id).map (·.actor) := by
    intro id
    simpa [Function.comp_def] using congrArg (Option.map Prod.fst) (tracks.knows id)
  unfold writing?
  split
  · rw [actor]
  · rfl

/-- What a question writes is written into the metadata that all were told of, after what was
written there before. -/
theorem Tracks.holds_answered (tracks : router.Tracks metadata world past later)
    (discreet : router.Discreet world) (attends : router.Attends metadata past)
    (apt : router.Apt metadata past exchange) :
    (later.answer exchange.call).world.metadataOf metadata =
      (router.writing? world exchange).elim (later.metadataOf metadata)
        (later.metadataOf metadata).merge := by
  rw [tracks.writing?_eq]
  obtain ⟨call, reply⟩ := exchange
  -- Either nothing is written, or a step writes that has been told of the metadata.
  cases writing : router.writing? later ⟨call, reply⟩ with
  | none =>
    by_cases concerned : later.concerns? call = some metadata
    · obtain ⟨-, id, node, view, applied, registered, aware, known, minds⟩ :=
        tracks.concerns discreet attends apt concerned
      cases call with
      | deliver other items =>
        have same := later.metadata_deliver (later.concerns? (.deliver other items)) other items
        simp only [World.metadataOf, Option.elim_none, World.answer, World.answerAbout,
          Stage.Answer.world, same]
      | applyStep other item =>
        -- A step that minds metadata has something to write.
        cases applied
        rw [Stage.Actor.minds_applyStep] at minds
        obtain ⟨fields, writes⟩ := Option.isSome_iff_exists.mp minds
        simp [writing?, registered, aware, known, writes] at writing
      | _ => simp [Stage.Actor.minds] at minds
    · -- A question that is not about these metadata leaves them alone.
      exact World.metadataOf_answerAbout concerned call
  | some fields =>
    cases call with
    | applyStep id item =>
      obtain ⟨node, registered, wrote⟩ := Option.bind_eq_some_iff.mp writing
      split at wrote
      · rename_i aware
        obtain ⟨actor, acts, writes⟩ := Option.bind_eq_some_iff.mp wrote
        obtain ⟨view, known, rfl⟩ := Option.map_eq_some_iff.mp acts
        obtain ⟨_, found, hears⟩ := tracks.heard discreet attends apt rfl rfl known
        cases registered.symm.trans found
        -- The step has been told of the metadata, and so these are what it writes into.
        have concerned : later.concerns? (.applyStep id item) = some metadata := by
          refine World.concerns?_eq_some_iff.mpr
            ⟨id, view, rfl, known, ?_, by simpa [aware] using hears⟩
          simp [Stage.Actor.minds_applyStep, writes]
        have written := World.metadataOf_applyStep_of_writes known writes tracks.there item
        simpa only [World.answer, concerned, World.answerAbout, Stage.Answer.world,
          Option.elim_some] using written
      · cases wrote
    | _ => cases writing

/-- After an apt question the collaborator that was told knows of the metadata, and all others know
what they knew. -/
theorem Apt.heed {call : Call} {reply : call.Reply} (apt : router.Apt metadata past ⟨call, reply⟩)
    (view : MetadataView) (id : String) (contents : Option Fields) :
    ((view.heed id contents call).actor, (view.heed id contents call).heard) =
      (view.actor, if tells id ⟨call, reply⟩ then some metadata else view.heard) := by
  -- What is shared is the metadata of this traversal, and a delivery does not tell of any.
  cases call with
  | shareMetadata other shared =>
    obtain ⟨rfl, -⟩ := apt.shares other shared rfl
    by_cases same : other = id <;> simp [MetadataView.heed, tells, same]
  | deliver other items => by_cases same : other = id <;> simp [MetadataView.heed, tells, same]
  | _ => rfl

/-- Where questions are apt, what there is to know follows from what was asked. -/
theorem Tracks.answered (tracks : router.Tracks metadata world past later)
    (discreet : router.Discreet world) (attends : router.Attends metadata past)
    {call : Call} {reply : call.Reply} (apt : router.Apt metadata past ⟨call, reply⟩) {last : World}
    (given : (later.answer call).Gives last reply) :
    router.Tracks metadata world (past ++ [⟨call, reply⟩]) last where
  knows id := by
    rw [given.world_eq, World.answer, World.view?_answerAbout, Option.map_map]
    simp only [Function.comp_def, apt.heed]
    -- What is known after the question depends on what was known before, and on nothing else.
    have gist := congrArg (Option.map fun known : Stage.Actor × Option Nat =>
      (known.1, if tells id ⟨call, reply⟩ then some metadata else known.2)) (tracks.knows id)
    rw [Option.map_map, Option.map_map] at gist
    refine gist.trans (congrArg (Option.map · (world.view? id)) (funext fun view => ?_))
    by_cases told : tells id ⟨call, reply⟩ = true <;> simp [told]
  there := by
    rw [given.world_eq]
    exact Nat.lt_of_lt_of_le tracks.there (later.length_metadata_answerAbout _ call)
  holds := by
    have written := tracks.holds_answered discreet attends apt
    rw [given.world_eq, written, tracks.holds, List.filterMap_append, List.foldl_append]
    cases writing : router.writing? world ⟨call, reply⟩ <;> simp [writing]

/-- Where everybody is told of the same metadata and nothing else happens, these are all that
anybody knows of, and they hold what was written so far. -/
theorem tracks_of_plays (discreet : router.Discreet world)
    (there : metadata < world.metadata.length)
    (attends : router.Attends metadata past) (plays : world.Plays past later) :
    router.Tracks metadata world past later := by
  -- By induction on what was played, which grows at its end.
  induction plays with
  | start => exact ⟨fun id => by simp, there, rfl⟩
  | answered plays given ih =>
    have before := attends.of_append
    exact (ih before).answered discreet before (attends _ _ List.prefix_rfl) given

end Router

end BatchFlow
