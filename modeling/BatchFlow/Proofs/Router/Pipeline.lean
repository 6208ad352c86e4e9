import BatchFlow.Proofs.Node.Application
import BatchFlow.Proofs.Topology.Channels

/-! Nodes that are chained by the shorthand for pipelines and hold one step each leave the same
items as one node that holds all the steps as a group. -/

namespace BatchFlow

open Plan (Exchange)

namespace Declaration

/-- Without repeated ids, the one route of a pipeline that leaves an id goes to the next. -/
theorem leaving_links {before after : List String} {id : String}
    (distinct : (before ++ id :: after).Nodup) :
    leaving id (links (before ++ id :: after)) = after.head?.toList := by
  -- The routes before the id leave other ids, and so do those after it.
  have later : ∀ {rest : List String}, id ∉ rest → leaving id (links rest) = [] := by
    intro rest absent
    refine List.filterMap_eq_nil_iff.mpr fun route member => if_neg fun same => absent ?_
    exact same ▸ (List.of_mem_zip member).1
  induction before with
  | nil =>
    obtain ⟨absent, _⟩ := List.nodup_cons.mp distinct
    cases after with
    | nil => rfl
    | cons next rest =>
      have behind : leaving id (links (next :: rest)) = [] := later absent
      have split : links (id :: next :: rest) = [(id, next)] ++ links (next :: rest) := rfl
      rw [List.nil_append, split, leaving_append, behind]
      simp [leaving]
  | cons first rest ih =>
    -- The first id is another one, and no route that leaves it counts.
    obtain ⟨apart, distinct⟩ := List.nodup_cons.mp distinct
    have other : first ≠ id := fun same => apart (by simp [same])
    obtain ⟨next, more, split⟩ := List.exists_cons_of_ne_nil
      (show rest ++ id :: after ≠ [] by simp)
    have goesOn : links (first :: (rest ++ id :: after)) =
        [(first, next)] ++ links (rest ++ id :: after) := by
      rw [split]
      rfl
    rw [List.cons_append, goesOn, leaving_append, ih distinct]
    simp [leaving, other]

end Declaration

/-- A node with the step that it holds. -/
structure Holder where
  node : Node
  step : Item → StepResult

/-- What the surroundings answer to some holders: about an item, the result of the step, which
depends on nothing else, and about the resources, that they can begin. -/
def Holder.Answers (holders : List Holder) : Exchange → Prop
  | ⟨.applyStep id item, reply⟩ =>
    ∀ holder ∈ holders, holder.node.id = id → reply = holder.step item
  | ⟨.beginWork _, reply⟩ => reply = .ok ()
  | _ => True

/-- Surroundings that always give the same answers, and the right ones, answer to some holders. -/
theorem Holder.answers_of_replies {holders : List Holder} {answers : (call : Call) → call.Reply}
    {trace : List Exchange}
    (results : ∀ holder ∈ holders, ∀ item,
      answers (.applyStep holder.node.id item) = holder.step item)
    (begins : ∀ resource, answers (.beginWork resource) = .ok ())
    (replies : ∀ exchange ∈ trace, exchange.reply = answers exchange.call) :
    ∀ exchange ∈ trace, Answers holders exchange := by
  rintro ⟨call, reply⟩ member
  obtain rfl : reply = answers call := replies _ member
  unfold Answers
  -- Steps and begins are answered as they should be, and no other answer counts.
  split
  · rename_i same
    cases same
    rintro holder listed rfl
    exact results holder listed _
  · rename_i same
    cases same
    exact begins _
  · trivial

namespace Router

/-- Holders of steps are chained behind a sender by the shorthand for pipelines, and no other
declaration adds to where the output of one of them goes. -/
structure Chains (router : Router) (sender : String) (holders : List Holder) : Prop where
  declared : ∃ kinds before after,
    Topology.ofDeclarations kinds
      (before ++ .pipeline (sender :: holders.map (·.node.id)) :: after) = .ok router.topology ∧
    ∀ declaration ∈ before ++ after, ∀ route ∈ declaration.outputs,
      route.1 ∉ sender :: holders.map (·.node.id)
  distinct : (sender :: holders.map (·.node.id)).Nodup
  registered : ∀ holder ∈ holders, router.nodes.get? holder.node.id = some holder.node
  steps : ∀ holder ∈ holders, holder.node.role = .step

/-- What leaves an origin goes from holder to holder, and stops at the last of them. -/
def Conveys (router : Router) : String → List Holder → Prop
  | origin, [] => router.topology.outputOf origin = []
  | origin, holder :: rest =>
    router.topology.outputOf origin = [holder.node.id] ∧
      router.nodes.get? holder.node.id = some holder.node ∧ router.Conveys holder.node.id rest

/-- The walk came to its end, and the items that stopped at output leaves are these. -/
def LeavesItems (items : List Item) (result : Except RouteFailure Terminal) : Prop :=
  ∃ results, result = .ok results ∧ results.outputItems = items

variable {router : Router} {sender : String} {holders : List Holder}

/-- The output of each id of a chain goes to the next. -/
theorem Chains.outputOf (chains : router.Chains sender holders) {passed after : List String}
    {id : String} (split : sender :: holders.map (·.node.id) = passed ++ id :: after) :
    router.topology.outputOf id = after.head?.toList := by
  obtain ⟨kinds, before, later, built, others⟩ := chains.declared
  -- What the other declarations lay down leaves other ids.
  have aside : ∀ {declarations : List Declaration},
      (∀ declaration ∈ declarations, declaration ∈ before ++ later) →
      Declaration.leaving id (declarations.flatMap (·.outputs)) = [] := by
    intro declarations among
    refine List.filterMap_eq_nil_iff.mpr fun route laid => if_neg fun same => ?_
    obtain ⟨declaration, listed, member⟩ := List.mem_flatMap.mp laid
    refine others declaration (among declaration listed) route member ?_
    rw [split, same]
    simp
  have distinct := chains.distinct
  rw [split] at distinct
  rw [Topology.outputOf_ofDeclarations built, List.flatMap_append, List.flatMap_cons,
    Declaration.leaving_append, Declaration.leaving_append,
    aside fun declaration listed => List.mem_append_left _ listed,
    aside fun declaration listed => List.mem_append_right _ listed, Declaration.outputs, split,
    Declaration.leaving_links distinct, List.nil_append, List.append_nil]

/-- Along a chain, what leaves the sender goes from holder to holder. -/
theorem Chains.conveys (chains : router.Chains sender holders) :
    router.Conveys sender holders := by
  -- The induction is on the holders that are still ahead, whatever ids were passed before.
  have ahead : ∀ (rest : List Holder) (passed : List String) (origin : String),
      sender :: holders.map (·.node.id) = passed ++ origin :: rest.map (·.node.id) →
      (∀ holder ∈ rest, holder ∈ holders) → router.Conveys origin rest := by
    intro rest
    induction rest with
    | nil => exact fun passed origin split _ => chains.outputOf split
    | cons holder rest ih =>
      intro passed origin split among
      obtain ⟨here, later⟩ := List.forall_mem_cons.mp among
      refine ⟨chains.outputOf split, chains.registered holder here, ?_⟩
      exact ih (passed ++ [origin]) _ (by simpa using split) later
  exact ahead holders [] sender rfl fun _ => id

/-- The surroundings oblige each holder of a chain. -/
theorem Chains.obliged (chains : router.Chains sender holders) :
    ∀ holder ∈ holders, holder.node.Obliged (Holder.Answers holders) holder.step :=
  fun holder member => {
    role := chains.steps holder member
    results := fun _ _ given => given holder member rfl
    begins := fun _ _ given => given }

/-- A holder whose step accepts a message hands on what the step makes of it, and nothing else. -/
theorem handTo_yields {honest : Exchange → Prop} {holder : Holder} {message : Message}
    {traversal : Traversal} {descend : List String → Descent} {trail : List String}
    {ends : Unit → Traversal → Prop} (obliged : holder.node.Obliged honest holder.step)
    (found : router.nodes.get? holder.node.id = some holder.node)
    (active : traversal.transaction.phase = .active)
    (accepts : ∀ item ∈ message.data, ∃ outputs, holder.step item = .ok outputs)
    (followed : ∀ between, traversal.Advances between [] →
      (router.followOutput (descend (trail ++ [holder.node.id])) holder.node message
        (message.data.flatMap (Step.made holder.step))).Yields honest between ends) :
    (router.handTo descend trail message holder.node.id).Yields honest traversal ends := by
  unfold handTo
  rw [found]
  refine (obliged.applied _ active accepts).bind ?_
  rintro _ between ⟨rfl, advances⟩
  -- There are neither discards nor errors to be followed.
  exact (followed between advances).bind fun _ _ ended => Work.yields_pure ended

/-- Items that stop at an output leaf are recorded there. -/
theorem outputLeaf_yields {honest : Exchange → Prop} {traversal : Traversal}
    (active : traversal.transaction.phase = .active) (node : String) (items : List Item) :
    (outputLeaf node items).Yields honest traversal fun _ after =>
      traversal.Advances after [⟨node, items⟩] :=
  Work.yields_log_bind (Work.yields_modify ⟨.refl active, rfl⟩)

/-- A batch that the steps accept goes through all of them, and what comes out stops at the last
one; if nothing comes out of one of them, nothing stops anywhere. -/
theorem Conveys.dispatch {honest : Exchange → Prop} {origin : String} {holder : Holder}
    {rest : List Holder} (conveys : router.Conveys origin (holder :: rest))
    (obliged : ∀ member ∈ holder :: rest, member.node.Obliged honest member.step) {depth : Nat}
    (enough : rest.length < depth) (trail : List String) {message : Message}
    {traversal : Traversal} (active : traversal.transaction.phase = .active)
    (undeterred : Step.Undeterred ((holder :: rest).map (·.step)) message.data) :
    (router.dispatch depth trail message [holder.node.id]).Yields honest traversal fun _ after =>
      ∃ leaves, traversal.Advances after leaves ∧
        leaves.flatMap (·.items) = Step.outcome ((holder :: rest).map (·.step)) message.data := by
  -- Each holder on the way takes one level of depth.
  induction rest generalizing origin holder depth trail message traversal with
  | nil =>
    obtain ⟨depth, rfl⟩ := Nat.exists_eq_succ_of_ne_zero (Nat.ne_of_gt enough)
    obtain ⟨_, found, nowhere⟩ := conveys
    refine (handTo_yields (obliged holder List.mem_cons_self) found active undeterred.1
      fun between advances => ?_).bind fun _ _ ended => Work.yields_pure ended
    -- The last holder hands on nothing, or what it made stops there.
    unfold followOutput
    split
    · rename_i nothing
      refine Work.yields_pure ⟨[], advances, ?_⟩
      exact (List.isEmpty_iff.mp nothing).symm
    · rw [nowhere]
      refine (outputLeaf_yields advances.transaction.active _ _).weaken fun _ after stopped => ?_
      exact ⟨_, advances.trans stopped, List.append_nil _⟩
  | cons next rest ih =>
    obtain ⟨depth, rfl⟩ := Nat.exists_eq_succ_of_ne_zero (Nat.ne_of_gt (Nat.zero_lt_of_lt enough))
    obtain ⟨_, found, onward⟩ := conveys
    obtain ⟨here, later⟩ := List.forall_mem_cons.mp obliged
    refine (handTo_yields here found active undeterred.1 fun between advances => ?_).bind
      fun _ _ ended => Work.yields_pure ended
    unfold followOutput
    split
    · rename_i nothing
      -- The walk ends here, and the steps further on would have made nothing of nothing.
      refine Work.yields_pure ⟨[], advances, ?_⟩
      rw [List.map_cons, Step.outcome, List.isEmpty_iff.mp nothing, Step.outcome_nil]
      rfl
    · rw [onward.1]
      refine (ih onward later (Nat.lt_of_succ_lt_succ enough) _ advances.transaction.active
        undeterred.2).weaken fun _ after ended => ?_
      obtain ⟨leaves, further, stopped⟩ := ended
      exact ⟨leaves, advances.trans further, stopped⟩

/-- A batch that the steps accept leaves a sender through all of them. -/
theorem Conveys.depart {honest : Exchange → Prop} {message : Message}
    (conveys : router.Conveys message.sender holders)
    (obliged : ∀ member ∈ holders, member.node.Obliged honest member.step) {depth : Nat}
    (enough : holders.length ≤ depth) {traversal : Traversal}
    (active : traversal.transaction.phase = .active)
    (undeterred : Step.Undeterred (holders.map (·.step)) message.data) :
    (router.depart depth message).Yields honest traversal fun _ after =>
      ∃ leaves, traversal.Advances after leaves ∧
        leaves.flatMap (·.items) = Step.outcome (holders.map (·.step)) message.data := by
  unfold Router.depart
  cases holders with
  | nil =>
    -- Without any holder the message stops where it is.
    rw [conveys]
    refine (outputLeaf_yields active _ _).weaken fun _ after stopped => ?_
    exact ⟨_, stopped, List.append_nil _⟩
  | cons holder rest =>
    rw [conveys.1]
    exact conveys.dispatch obliged enough [] active undeterred

/-- The resource that a message brings takes part from the beginning of the walk. -/
theorem enlistOrigin_yields {honest : Exchange → Prop} {message : Message} {traversal : Traversal}
    (begins : ∀ resource reply, honest ⟨.beginWork resource, reply⟩ → reply = .ok ())
    (active : traversal.transaction.phase = .active) :
    (enlistOrigin message).Yields honest traversal fun _ after => traversal.Advances after [] ∧
      ∀ resource, message.origin = some resource → resource.key ∈ after.transaction.keys := by
  unfold enlistOrigin
  -- A message without a resource of its own leaves the transaction as it was opened.
  cases message.origin with
  | none => exact Work.yields_pure ⟨.refl active, nofun⟩
  | some resource =>
    refine Work.yields_onPart ((Transaction.enlist_yields (begins _) active).weaken ?_)
    rintro _ after ⟨prolongs, member⟩
    exact ⟨⟨prolongs, (List.append_nil _).symm⟩, by rintro _ ⟨⟩; exact member⟩

/-- Resolving a walk that went well does not change what it left. -/
theorem resolve_yields {honest : Exchange → Prop} (message : Message) (start : Duration)
    (traversal : Traversal) :
    (resolve message start (traversal, .ok ())).Yields honest fun ended =>
      LeavesItems (traversal.outputs.flatMap (·.items)) ended.2 := by
  refine Plan.Yields.bind (Transaction.commit_confined traversal.transaction).yields ?_
  -- The results tell whether the transaction could commit, and are the same otherwise.
  exact fun committed _ now _ _ _ => ⟨_, rfl, rfl⟩

/-- A batch that the steps accept is taken through all of them, its resource taking part. -/
theorem Conveys.traverse {honest : Exchange → Prop} {message : Message}
    (conveys : router.Conveys message.sender holders)
    (obliged : ∀ member ∈ holders, member.node.Obliged honest member.step)
    (begins : ∀ resource reply, honest ⟨.beginWork resource, reply⟩ → reply = .ok ()) {depth : Nat}
    (enough : holders.length ≤ depth) {traversal : Traversal}
    (active : traversal.transaction.phase = .active)
    (undeterred : Step.Undeterred (holders.map (·.step)) message.data) :
    (router.traverse depth message).Yields honest traversal fun _ after =>
      ∃ leaves, traversal.Advances after leaves ∧
        leaves.flatMap (·.items) = Step.outcome (holders.map (·.step)) message.data := by
  refine (enlistOrigin_yields begins active).bind ?_
  rintro _ enlisted ⟨entered, member⟩
  refine (conveys.depart obliged enough entered.transaction.active undeterred).bind ?_
  rintro _ departed ⟨leaves, went, stopped⟩
  -- The resource of the message still takes part when the walk is over.
  unfold delistOrigin
  refine Work.yields_onPart ?_
  refine (Node.delist_yields went.transaction.active fun resource brought =>
    went.transaction.kept (member resource brought)).weaken fun _ after prolongs => ?_
  have advances := entered.trans went
  exact ⟨leaves, ⟨advances.transaction.trans prolongs, advances.outputs⟩, stopped⟩

/-- What a batch leaves behind that the steps of a chain accept. -/
theorem Chains.route {message : Message} (chains : router.Chains message.sender holders)
    {depth : Nat} (enough : holders.length ≤ depth)
    (undeterred : Step.Undeterred (holders.map (·.step)) message.data) :
    (router.route depth message).Yields (Holder.Answers holders)
      (LeavesItems (Step.outcome (holders.map (·.step)) message.data)) := by
  have traverses : ∀ id, (router.traverse depth { message with transaction := some id }).Yields
      (Holder.Answers holders) (.opened id) fun _ after => ∃ leaves,
        (Traversal.opened id).Advances after leaves ∧
        leaves.flatMap (·.items) = Step.outcome (holders.map (·.step)) message.data := by
    intro id
    refine Conveys.traverse ?_ chains.obliged (fun _ _ given => given) enough rfl undeterred
    exact chains.conveys
  have walks : (router.walk depth message).Yields (Holder.Answers holders) fun ended =>
      LeavesItems (Step.outcome (holders.map (·.step)) message.data) ended.2 := by
    intro id _ _ _ start _
    change ((router.traverse depth _ (.opened id)).bind _).Yields _ _
    refine Plan.Yields.bind (traverses id) ?_
    rintro ⟨traversal, _⟩ ⟨_, rfl, leaves, advances, stopped⟩
    -- Nothing had stopped anywhere before the walk.
    have outputs : traversal.outputs = leaves := advances.outputs
    exact stopped ▸ outputs ▸ resolve_yields _ start traversal
  exact Plan.Yields.bind walks fun _ left => left

/-- A group of steps is as good as a pipeline. Of a batch that no step discards anything of or fails
on, a chain of nodes with one step each and a single node with all the steps as one leave the same
items in the same order, however the nodes take their batches. Both walks end well with any answers
that give each item the result of the step and let the resources begin. -/
theorem route_pipeline_eq_group {pipeline single : Router} {message : Message}
    {holders : List Holder} {group : Holder}
    (grouped : group.step = Step.grouped (holders.map (·.step)))
    (chained : pipeline.Chains message.sender holders)
    (alone : single.Chains message.sender [group])
    (undeterred : Step.Undeterred (holders.map (·.step)) message.data) {depth other : Nat}
    (enough : holders.length ≤ depth) (ample : 1 ≤ other) :
    ∃ items,
      (pipeline.route depth message).Yields (Holder.Answers holders) (LeavesItems items) ∧
      (single.route other message).Yields (Holder.Answers [group]) (LeavesItems items) := by
  -- The group is the only step of the other chain, and its outcome is that of the steps.
  obtain ⟨accepted, same⟩ := Step.undeterred_grouped undeterred
  rw [← grouped] at accepted same
  exact ⟨_, chained.route enough undeterred, same ▸ alone.route ample accepted⟩

/-- A step that makes nothing of one sort of item and two of every other. -/
def splitting : Step :=
  .scripted ⟨[(.null, .output [])], .output [.string "ab", .string "cd"], [], none⟩

/-- Two nodes with one step each, of which the first is fed one item at a time. -/
def apart : List Holder :=
  [⟨{ Node.plain "split" .step "script_step" with acceptsBatches := false }, splitting.resultFor⟩,
    ⟨.plain "turn" .step "reverse_text", Step.reverse.resultFor⟩]

/-- Both steps in one node. -/
def together : Holder :=
  ⟨.plain "both" .step "step_group", (Step.group [splitting, .reverse]).resultFor⟩

/-- A producer whose items go through the two nodes. -/
def apartRouter : Router where
  topology := ⟨[("inbox", ⟨["split"], [], []⟩), ("split", ⟨["turn"], [], []⟩)], [], ["inbox"],
    ["split", "turn"], .builtIn⟩
  nodes := .ofList (apart.map (·.node))

/-- A producer whose items go to the one node. -/
def togetherRouter : Router where
  topology := ⟨[("inbox", ⟨["both"], [], []⟩)], [], ["inbox"], ["both"], .builtIn⟩
  nodes := .ofList [together.node]

/-- Surroundings that answer for these nodes. -/
def splitAnswers : (call : Call) → call.Reply
  | .applyStep id item =>
    if id = "split" then splitting.resultFor item
    else if id = "turn" then Step.reverse.resultFor item
    else together.step item
  | call => Plan.uneventful call

/-- A message with an item of either sort. -/
def pair : Message := ⟨"inbox", [.null, .bool true], none, "", none, none, 0⟩

/-- Whether a walk left as many items as this at output leaves. -/
def leavesCount (count : Nat) : Except RouteFailure Terminal → Bool
  | .ok results => results.outputItems.length == count
  | .error _ => false

/-- Of two items the first comes to nothing, and the second one to two items that are turned around;
apart or together, the steps leave the same two. -/
theorem route_pipeline_eq_group_split :
    ∃ trace result other outcome,
      (apartRouter.route 2 pair).Runs trace result ∧
      (togetherRouter.route 1 pair).Runs other outcome ∧
      leavesCount 2 result = true ∧
      ∃ items, LeavesItems items result ∧ LeavesItems items outcome := by
  -- The steps are chained in one router, and one node has the group of them in the other.
  have chained : apartRouter.Chains pair.sender apart := {
    declared := ⟨.builtIn, [.producer "inbox", .node "split", .node "turn"], [], rfl, by decide⟩
    distinct := by decide
    registered := by simp [apart]; exact ⟨rfl, rfl⟩
    steps := by decide }
  have alone : togetherRouter.Chains pair.sender [together] := {
    declared := ⟨.builtIn, [.producer "inbox", .node "both"], [], rfl, by decide⟩
    distinct := by decide
    registered := by simp; rfl
    steps := by decide }
  -- No item of the pair makes a step fail.
  have undeterred : Step.Undeterred (apart.map (·.step)) pair.data := by
    have turned : ∀ item ∈ [Item.string "ab", .string "cd"],
        ∃ outputs, Step.reverse.resultFor item = .ok outputs :=
      List.forall_mem_cons.mpr ⟨⟨_, rfl⟩, List.forall_mem_singleton.mpr ⟨_, rfl⟩⟩
    exact ⟨List.forall_mem_cons.mpr ⟨⟨_, rfl⟩, List.forall_mem_singleton.mpr ⟨_, rfl⟩⟩, turned,
      trivial⟩
  have grouped : together.step = Step.grouped (apart.map (·.step)) :=
    funext (Step.resultFor_group [splitting, .reverse])
  -- Both walks are carried out in the same surroundings.
  obtain ⟨trace, result, runs, replies, checked⟩ := Plan.exists_run_of_answers splitAnswers
    (apartRouter.route 2 pair) (leavesCount 2) (by decide)
  obtain ⟨other, outcome, goes, answers, _⟩ := Plan.exists_run_of_answers splitAnswers
    (togetherRouter.route 1 pair) (fun _ => true) (by decide)
  -- The theorem holds of all runs, and these two have the same surroundings.
  obtain ⟨items, left, same⟩ := route_pipeline_eq_group grouped chained alone undeterred
    (Nat.le_refl 2) (Nat.le_refl 1)
  refine ⟨trace, result, other, outcome, runs, goes, checked, items, left.runs runs ?_,
    same.runs goes ?_⟩
  · refine Holder.answers_of_replies ?_ (fun _ => rfl) replies
    simp only [apart, List.forall_mem_cons, List.not_mem_nil, false_implies, implies_true, and_true]
    exact ⟨fun _ => rfl, fun _ => rfl⟩
  · exact Holder.answers_of_replies (List.forall_mem_singleton.mpr fun _ => rfl) (fun _ => rfl)
      answers

end Router

end BatchFlow
