import BatchFlow.Proofs.Router.Walk

/-! Whatever is answered, and whether or not a walk comes to an end, it questions only nodes that
the destinations of its topology lead to. -/

namespace BatchFlow

open Plan (Exchange)

/-- A question that may be asked while a message is routed among some nodes. -/
def Call.OfWalk (known : String → Prop) (call : Call) : Prop :=
  (∃ node, call.applied? = some node ∧ known node) ∨ call.isShared = true

/-- The node whose collaborator is questioned during a walk is one of the known nodes. -/
theorem Call.OfWalk.applied {known : String → Prop} {call : Call} (walks : call.OfWalk known)
    {id : String} (applied : call.applied? = some id) : known id := by
  rcases walks with ⟨node, same, member⟩ | shared
  · cases applied.symm.trans same
    exact member
  · -- What is asked about the transaction is no question to a collaborator.
    cases call <;> simp [applied?, isShared] at applied shared

/-- What a walk among some nodes may do. It may fail in any way, but for a lost destination only if
destinations may be lost. -/
def Work.Bounds.walking (known : String → Prop) (lost boundless : Prop) : Work.Bounds :=
  ⟨Call.OfWalk known,
    fun failure => ∀ destination origin, failure = .unknownDestination destination origin → lost,
    boundless⟩

variable {known : String → Prop} {lost boundless : Prop}

/-- A known node is admitted to a walk. -/
theorem Node.admitted_walking (node : Node) (member : known node.id) :
    node.Admitted (.walking known lost boundless) where
  shared _ shared := .inr shared
  own _ applied := .inl ⟨node.id, applied, member⟩
  -- Neither failure is one for a lost destination.
  faulty _ _ _ same := by cases same
  fatal _ _ _ same := by cases same

/-- A known node that is applied asks what belongs to a walk. -/
theorem Node.apply_walking (node : Node) (message : Message) (member : known node.id) :
    (node.apply message).Confined (.walking known lost boundless) fun _ => True :=
  (node.admitted_walking member).apply message

/-- Every node that a traversal has visited is known, and so are those that led to it. -/
def Traversal.Among (known : String → Prop) (traversal : Traversal) : Prop :=
  ∀ visit ∈ traversal.visits, ∀ id ∈ visit.trail, known id

namespace Router

/-- Destinations that lead to known nodes. One that leads nowhere is lost. -/
def Leads (router : Router) (known : String → Prop) (lost : Prop) (destinations : List String) :
    Prop :=
  ∀ destination ∈ destinations,
    match router.nodes.get? destination with
    | some node => known node.id
    | none => lost

/-- Every list of destinations that the router can read leads to known nodes. -/
structure Charted (router : Router) (known : String → Prop) (lost : Prop) : Prop where
  output : ∀ origin, router.Leads known lost (router.topology.outputOf origin)
  discard : ∀ origin, router.Leads known lost (router.topology.discardOf origin)
  errors : ∀ origin kind, router.Leads known lost (router.topology.errorDestinations origin kind)

variable {router : Router}

/-- A piece of a traversal that keeps to known nodes. -/
abbrev Guided (known : String → Prop) (lost boundless : Prop) {α : Type}
    (work : Work Traversal α) : Prop :=
  work.Confined (.walking known lost boundless) (Traversal.Among known)

/-- A visit along a trail of known nodes is one among known nodes. -/
theorem applies_among {trail : List String} {node : Node} (among : ∀ id ∈ trail, known id)
    (member : known node.id) :
    Applies (.walking known lost boundless) (Traversal.Among known) trail node where
  admitted := node.admitted_walking member
  noted before after message result held same := by
    intro visit noted
    rw [same, List.mem_append, List.mem_singleton] at noted
    -- This visit is the only one that was not there before.
    rcases noted with noted | rfl
    · exact held visit noted
    · exact among

/-- A known node that is fed along a trail of known nodes keeps to them. -/
theorem apply_guided {trail : List String} (node : Node) (message : Message)
    (among : ∀ id ∈ trail, known id) (member : known node.id) :
    Guided known lost boundless (apply trail node message) :=
  (applies_among among member).apply message

/-- Where a chart leads, the trail is one of known nodes, and so is what comes next. -/
def Charted.Reach (router : Router) (known : String → Prop) (lost : Prop) (_depth : Nat)
    (trail : List String) (destination : String) : Prop :=
  (∀ id ∈ trail, known id) ∧
    match router.nodes.get? destination with
    | some node => known node.id
    | none => lost

/-- Walking along a chart is an expedition among known nodes. -/
theorem Charted.expedition (charted : router.Charted known lost) :
    router.Expedition (.walking known lost True) (Traversal.Among known)
      (Charted.Reach router known lost) where
  shared _ shared := .inr shared
  faulty _ _ _ same := by cases same
  account before after same held := by rw [Traversal.Among, same]; exact held
  exhausted _ _ _ := trivial
  lost _ _ destination origin reached absent := by
    -- Here the walk fails for want of a node, which must have been allowed for.
    have led := reached.2
    rw [absent] at led
    exact fun _ _ _ => led
  station _ trail destination node reached found := by
    -- The node that was reached is a known one, and so are all before it.
    have member : known node.id := by
      have led := reached.2
      rw [found] at led
      exact led
    have among : ∀ id ∈ trail ++ [node.id], known id := by
      intro id listed
      rcases List.mem_append.mp listed with before | last
      · exact reached.1 id before
      · exact List.mem_singleton.mp last ▸ member
    exact {
      toApplies := applies_among among member
      stuck := fun _ _ _ _ _ _ same => by cases same
      further := fun next onward => ⟨among, by
        -- Wherever it sends anything, the chart has provided for.
        cases onward with
        | output listed => exact charted.output node.id next listed
        | discard listed => exact charted.discard node.id next listed
        | error kind listed => exact charted.errors node.id kind next listed⟩ }

/-- A walk along a chart keeps to known nodes, and nothing is lost on it that may not be. -/
theorem walk_guided (charted : router.Charted known lost) (depth : Nat) (message : Message) :
    (router.walk depth message).Confined (Call.OfWalk known) True fun ended =>
      ended.1.Among known ∧
        ∀ destination origin, ended.2 = .error (.unknownDestination destination origin) → lost := by
  have starts : ∀ destination ∈ router.topology.outputOf message.sender,
      Charted.Reach router known lost depth [] destination := fun destination listed =>
    ⟨by simp, charted.output message.sender destination listed⟩
  -- The walk begins where the chart knows the destinations, with nothing visited.
  have walks := charted.expedition.walk starts fun _ => by simp [Traversal.Among, Traversal.opened]
  exact walks.weaken (fun _ allowed => allowed) id fun ended kept =>
    ⟨kept.1, fun destination origin same => kept.2 _ same destination origin rfl⟩

/-- Routing keeps to known nodes as the walk does. -/
theorem route_guided (charted : router.Charted known lost) (depth : Nat) (message : Message) :
    (router.route depth message).Confined (Call.OfWalk known) True fun result =>
      ∀ destination origin, result = .error (.unknownDestination destination origin) → lost :=
  (walk_guided charted depth message).bind fun _ kept => kept.2

/-- Wherever a walk may go, it asks no more than walks do. -/
theorem route_confined (router : Router) {allowed : Call → Prop}
    (allows : ∀ call : Call, (∃ node, call.applied? = some node) ∨ call.isShared = true →
      allowed call) (depth : Nat) (message : Message) :
    (router.route depth message).Confined allowed True fun _ => True := by
  -- Nothing is said of the nodes, so every destination is as good as any other.
  have leads : ∀ destinations, router.Leads (fun _ => True) True destinations := by
    intro destinations destination _
    split <;> trivial
  have charted : router.Charted (fun _ => True) True :=
    ⟨fun _ => leads _, fun _ => leads _, fun _ _ => leads _⟩
  refine (route_guided charted depth message).weaken (fun call walks => allows call ?_) id
    fun _ _ => trivial
  exact walks.imp_left fun ⟨node, applied, _⟩ => ⟨node, applied⟩

end Router

end BatchFlow
