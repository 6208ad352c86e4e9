import BatchFlow.Proofs.Router.Walk
import Mathlib.Data.List.Chain
import Mathlib.Data.List.Perm.Subperm
import Mathlib.Logic.Relation

/-! Where no node can follow itself, a walk comes to an end. The nodes on a trail follow each other,
so none of them occurs twice, and a trail is no longer than there are nodes. -/

namespace BatchFlow

/-- Where a node may hand something: along its output, its discards and its own error rules, and to
the default destinations unless it is one of them. -/
def Topology.successors (topology : Topology) (origin : String) : List String :=
  topology.outputOf origin ++ topology.discardOf origin ++
    (topology.errorRulesOf origin).flatMap (·.destinations) ++
    if origin ∈ topology.defaultErrors then [] else topology.defaultErrors

namespace Router

/-- A registered node is a successor of another one. -/
structure Follows (router : Router) (origin destination : String) : Prop where
  leaves : origin ∈ router.nodes.ids
  enters : destination ∈ router.nodes.ids
  listed : destination ∈ router.topology.successors origin

/-- No registered node follows itself, directly or by way of others. -/
def Acyclic (router : Router) : Prop :=
  ∀ id, ¬ Relation.TransGen router.Follows id id

/-- A trail of registered nodes each of which follows the one before. -/
structure Chained (router : Router) (trail : List String) : Prop where
  linked : trail.IsChain router.Follows
  registered : ∀ id ∈ trail, id ∈ router.nodes.ids

/-- A destination that comes next at the end of a trail. -/
structure Ahead (router : Router) (trail : List String) (destination : String) : Prop where
  chained : router.Chained trail
  listed : ∀ last, trail.getLast? = some last → destination ∈ router.topology.successors last

variable {router : Router} {trail : List String} {node : Node} {destination : String}

/-- Nodes that rise in rank along every route do not follow themselves. -/
theorem acyclic_of_rank (rank : String → Nat)
    (rises : ∀ origin ∈ router.nodes.ids, ∀ destination ∈ router.nodes.ids,
      destination ∈ router.topology.successors origin → rank origin < rank destination) :
    router.Acyclic := by
  intro id round
  -- Ranks rise along every way, so none leads back to where it began.
  have climbs : ∀ {origin destination}, Relation.TransGen router.Follows origin destination →
      rank origin < rank destination := by
    intro origin destination way
    induction way with
    | single follows => exact rises _ follows.leaves _ follows.enters follows.listed
    | tail _ follows ih => exact ih.trans (rises _ follows.leaves _ follows.enters follows.listed)
  exact lt_irrefl _ (climbs round)

/-- Where no node follows itself, a trail meets no node twice. -/
theorem Chained.nodup (chained : router.Chained trail) (acyclic : router.Acyclic) :
    trail.Nodup := by
  -- Each node of the trail comes before all those further along.
  have before : trail.Pairwise (Relation.TransGen router.Follows) :=
    List.isChain_iff_pairwise.mp (chained.linked.imp fun _ _ follows => .single follows)
  refine before.imp fun way same => ?_
  exact acyclic _ (same ▸ way)

/-- Where no node follows itself, a trail is no longer than there are nodes. -/
theorem Chained.length_le (chained : router.Chained trail) (acyclic : router.Acyclic) :
    trail.length ≤ router.nodes.size := by
  have within := (List.subperm_of_subset (chained.nodup acyclic) chained.registered).length_le
  rwa [Nodes.length_ids] at within

/-- Nothing comes before the first destination. -/
theorem ahead_nil (router : Router) (destination : String) : router.Ahead [] destination :=
  ⟨⟨.nil, by simp⟩, by simp⟩

/-- A node that comes next prolongs the trail. -/
theorem Ahead.enter (ahead : router.Ahead trail destination)
    (found : router.nodes.get? destination = some node) :
    router.Chained (trail ++ [node.id]) := by
  have same := Nodes.id_of_get? found
  have registered : node.id ∈ router.nodes.ids :=
    Nodes.isSome_get?_iff.mp (Option.isSome_of_mem (same ▸ found))
  constructor
  · refine List.isChain_append.mpr ⟨ahead.chained.linked, .singleton _, ?_⟩
    intro last isLast next isNext
    cases isNext
    -- The end of the trail is registered, and the node is a successor of it.
    exact ⟨ahead.chained.registered last (List.mem_of_getLast? isLast), registered,
      same ▸ ahead.listed last isLast⟩
  · intro id listed
    rcases List.mem_append.mp listed with before | last
    · exact ahead.chained.registered id before
    · exact List.mem_singleton.mp last ▸ registered

/-- Wherever a node hands something, that is a successor of it. -/
theorem Onward.successor (onward : router.Onward node destination) :
    destination ∈ router.topology.successors node.id := by
  simp only [Topology.successors, List.mem_append, List.mem_flatMap]
  -- Errors go along a rule of the node, or along the default list if the node is not on it.
  cases onward with
  | output listed => exact .inl (.inl (.inl listed))
  | discard listed => exact .inl (.inl (.inr listed))
  | error kind listed =>
    rcases Topology.of_mem_errorDestinations listed with ruled | ⟨outside, listed⟩
    · exact .inl (.inr ruled)
    · exact .inr (by rwa [if_neg outside])

/-- From the node at its end a trail goes on to the node's successors. -/
theorem Chained.ahead (chained : router.Chained (trail ++ [node.id]))
    (onward : router.Onward node destination) : router.Ahead (trail ++ [node.id]) destination := by
  -- The node is the last of the trail, so its successors are what may come next.
  refine ⟨chained, fun last isLast => ?_⟩
  rw [List.getLast?_concat] at isLast
  exact Option.some.inj isLast ▸ onward.successor

/-- Every visit of a traversal was paid along a chained trail. -/
def Trailed (router : Router) (traversal : Traversal) : Prop :=
  ∀ visit ∈ traversal.visits, router.Chained visit.trail

/-- Where no node follows itself, a walk is an expedition along chained trails, and it needs no more
depth than there are nodes left. -/
theorem Acyclic.expedition (acyclic : router.Acyclic) (boundless : Prop) :
    router.Expedition ⟨fun _ => True, fun _ => True, boundless⟩ router.Trailed
      fun depth trail destination => router.Ahead trail destination ∧
        (¬ boundless → router.nodes.size < trail.length + depth) where
  shared _ _ := trivial
  faulty _ := trivial
  account before after same held := by rw [Trailed, same]; exact held
  exhausted trail destination := by
    rintro ⟨ahead, enough⟩
    -- With no depth left the trail would be longer than there are nodes.
    by_contra bounded
    have short := ahead.chained.length_le acyclic
    have long := enough bounded
    omega
  lost _ _ _ _ _ _ := trivial
  station depth trail destination node := by
    rintro ⟨ahead, enough⟩ found
    have chained := ahead.enter found
    exact {
      admitted := ⟨⟨fun _ _ => trivial, fun _ => trivial⟩, fun _ _ => trivial, fun _ => trivial⟩
      noted := by
        intro before after message result held same visit noted
        -- The new visit is along the trail that has just been prolonged.
        rw [same, List.mem_append, List.mem_singleton] at noted
        rcases noted with noted | rfl
        · exact held visit noted
        · exact chained
      stuck := fun _ _ _ _ => trivial
      further := fun next onward => ⟨chained.ahead onward, fun bounded => by
        -- The trail is one longer, and the depth one less.
        have left := enough bounded
        rw [List.length_append, List.length_singleton]
        omega⟩ }

/-- Work on each element does not depend on what would be done with others. -/
theorem forEach_congr {σ α : Type} {elements : List α} {work other : α → Work σ Unit}
    (same : ∀ element ∈ elements, work element = other element) :
    Work.forEach elements work = Work.forEach elements other := by
  -- Element by element, as the work is done.
  induction elements with
  | nil => rfl
  | cons first rest ih =>
    rw [Work.forEach, Work.forEach, same first List.mem_cons_self,
      ih fun element member => same element (.tail _ member)]

/-- What a node returned is followed in the same way if its successors are reached in the same
way. -/
theorem follow_congr {descend other : Descent} (message : Message) (response : Response)
    (same : ∀ message destinations, (∀ next ∈ destinations, router.Onward node next) →
      descend message destinations = other message destinations) :
    router.follow descend node message response = router.follow other node message response := by
  -- Each of the three sorts of batches is sent along one sort of routes.
  have output : router.followOutput descend node message response.output =
      router.followOutput other node message response.output := by
    unfold followOutput
    dsimp only
    -- What holds of the output holds of any batch of discards or of errors.
    rw [same _ _ fun _ listed => .output listed]
  have discard : router.followDiscard descend node message =
      router.followDiscard other node message := by
    funext batch
    unfold followDiscard
    dsimp only
    rw [same _ _ fun _ listed => .discard listed]
  have error : router.followError descend node message =
      router.followError other node message := by
    funext batch
    unfold followError
    dsimp only
    rw [same _ _ fun _ listed => .error batch.kind listed]
  unfold follow
  rw [output, discard, error]

/-- Where no node follows itself, it makes no difference how much more depth there is than nodes
left. -/
theorem Acyclic.dispatch_eq (acyclic : router.Acyclic) (depth other : Nat) {trail : List String}
    (enough : router.nodes.size < trail.length + depth)
    (ample : router.nodes.size < trail.length + other) (message : Message)
    {destinations : List String} (chained : router.Chained trail)
    (ahead : ∀ destination ∈ destinations, router.Ahead trail destination) :
    router.dispatch depth trail message destinations =
      router.dispatch other trail message destinations := by
  have short := chained.length_le acyclic
  -- Both depths go down together, so the induction on the one is for any other.
  induction depth generalizing other trail message destinations with
  | zero => omega
  | succ depth ih =>
    cases other with
    | zero => omega
    | succ other =>
      refine forEach_congr fun destination listed => ?_
      unfold handTo
      cases found : router.nodes.get? destination with
      | none => rfl
      | some node =>
        have further := (ahead destination listed).enter found
        have prolonged : (trail ++ [node.id]).length = trail.length + 1 := by simp
        dsimp only
        congr 1
        funext response
        -- One more node is on the trail, and both depths are one less.
        exact follow_congr message response fun message next onward =>
          ih other (by omega) (by omega) message further
            (fun destination listed => further.ahead (onward destination listed))
            (further.length_le acyclic)

/-- Where no node follows itself, it makes no difference how much deeper a walk may go than there
are nodes. -/
theorem Acyclic.walk_eq (acyclic : router.Acyclic) {depth other : Nat}
    (enough : router.nodes.size < depth) (ample : router.nodes.size < other) (message : Message) :
    router.walk depth message = router.walk other message := by
  -- The depth is only needed by the first dispatch, and any that is large enough does.
  have departs : ∀ message, router.depart depth message = router.depart other message := by
    intro message
    unfold depart
    dsimp only
    rw [acyclic.dispatch_eq depth other (by simpa using enough) (by simpa using ample) message
      (ahead_nil router "").chained fun destination _ => ahead_nil router destination]
  have traverses : ∀ message, router.traverse depth message = router.traverse other message := by
    intro message
    unfold traverse
    rw [departs message]
  unfold walk
  simp only [traverses]

/-- Routing comes to an end where no node follows itself. With more depth than there are nodes, a
walk ends whatever it is answered, and how much more does not matter. However deep it may go, nested
applications are those of different nodes, each a successor of the one before, and so they are never
more than there are nodes. -/
theorem route_terminates {router : Router} (acyclic : router.Acyclic) (message : Message) :
    (∀ depth, router.nodes.size < depth →
      (router.route depth message).Ends ∧
      router.route depth message = router.route (router.nodes.size + 1) message) ∧
    ∀ depth trace traversal result, (router.walk depth message).Runs trace (traversal, result) →
      ∀ visit ∈ traversal.visits, visit.trail.Nodup ∧ visit.trail.IsChain router.Follows ∧
        visit.trail.length ≤ router.nodes.size := by
  have begins : ∀ id, router.Trailed (.opened id) := fun id visit noted => by cases noted
  constructor
  · -- With enough depth the bounds exclude going on without end.
    intro depth enough
    have routes : (router.route depth message).Confined _ False _ :=
      (acyclic.expedition False).route
        (fun destination _ => ⟨ahead_nil router destination, fun _ => by simpa using enough⟩) begins
    refine ⟨routes.comesToAnEnd, ?_⟩
    unfold route
    rw [acyclic.walk_eq enough (Nat.lt_succ_self _) message]
  · intro depth trace traversal result runs visit noted
    -- Trails are known however deep the walk may go.
    have walks : (router.walk depth message).Confined _ _ fun ended => router.Trailed ended.1 ∧ _ :=
      (acyclic.expedition True).walk
        (fun destination _ => ⟨ahead_nil router destination, fun bounded => absurd trivial bounded⟩)
        begins
    have chained := (walks.runs runs).2.1 visit noted
    exact ⟨chained.nodup acyclic, chained.linked, chained.length_le acyclic⟩

/-- Five nodes with all sorts of routes: what cannot be parsed is repaired, what cannot be checked
goes to the log by default, and so do errors of the audit. The log is not sent its own errors. -/
def workshop : Router where
  topology := ⟨[("inbox", ⟨["parse"], [], []⟩),
    ("parse", ⟨["check"], ["audit"], [⟨.root, ["repair"]⟩]⟩), ("repair", ⟨["check"], [], []⟩)],
    ["log"], ["inbox"], ["parse", "repair", "check", "audit", "log"], .builtIn⟩
  nodes := .ofList [.plain "parse" .step "copy", .plain "repair" .step "copy",
    .plain "check" .step "copy", .plain "audit" .sink "memory", .plain "log" .sink "memory"]

/-- Each route of the workshop leads to a node further down its list. -/
theorem workshop_acyclic : workshop.Acyclic :=
  acyclic_of_rank (fun id => workshop.nodes.ids.idxOf id) (by decide)

/-- Surroundings in which nothing can be parsed and nothing passes the check. -/
def malformed : Plan.Surroundings
  | _, .applyStep node item =>
    if node = "repair" then .ok [item] else .error (.failed (.dataFormat "malformed"))
  | _, call => Plan.uneventful call

/-- In the workshop an item goes from node to node along three sorts of routes, four applications
being nested in one another, and any walk comes to an end. -/
theorem route_terminates_workshop :
    ∃ trace traversal result,
      (workshop.walk 6 ⟨"inbox", [.null], none, "", none, none, 0⟩).Runs trace (traversal, result) ∧
      (traversal.visits.map (·.trail)).contains ["parse", "repair", "check", "log"] = true ∧
      (workshop.route 6 ⟨"inbox", [.null], none, "", none, none, 0⟩).Ends ∧
      ∀ visit ∈ traversal.visits, visit.trail.Nodup ∧ visit.trail.IsChain workshop.Follows ∧
        visit.trail.length ≤ 5 := by
  -- The walk is computed, and has the four applications nested in one another.
  obtain ⟨trace, ⟨traversal, result⟩, runs, checked⟩ := Plan.exists_run malformed
    (workshop.walk 6 ⟨"inbox", [.null], none, "", none, none, 0⟩)
    (fun ended => (ended.2.1.visits.map (·.trail)).contains ["parse", "repair", "check", "log"])
    (by decide)
  obtain ⟨ends, trails⟩ := route_terminates workshop_acyclic
    ⟨"inbox", [.null], none, "", none, none, 0⟩
  exact ⟨trace, traversal, result, runs, checked, (ends 6 (by decide)).1,
    trails 6 trace traversal result runs⟩

end Router

end BatchFlow
