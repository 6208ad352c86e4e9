import BatchFlow.Proofs.Kinds.Declarations
import BatchFlow.Proofs.Router.Walk

/-! A rule for the root takes errors of every kind, declared or not, and so do default destinations.
A traversal fails for an unrouted error only where neither of them helps. -/

namespace BatchFlow

/-- None of a node's errors can be left without a destination unhandled: it does not mind, or one of
its own rules takes them all, or the default destinations do without the node being one of them. -/
def Topology.CatchesAll (topology : Topology) (node : Node) : Prop :=
  node.bestEffort = true ∨
    (∃ rule ∈ topology.errorRulesOf node.id, rule.kind = .root ∧ rule.destinations ≠ []) ∨
    (topology.defaultErrors ≠ [] ∧ node.id ∉ topology.defaultErrors)

/-- If the root is above every kind, errors of a node that catches them all always have somewhere to
go. -/
theorem Topology.CatchesAll.errorDestinations_ne_nil {topology : Topology} {node : Node}
    (catches : topology.CatchesAll node) (strict : node.bestEffort = false)
    (grounded : topology.kinds.Grounded) (kind : Kind) :
    topology.errorDestinations node.id kind ≠ [] := by
  intro nowhere
  obtain ⟨unruled, uncaught⟩ := errorDestinations_eq_nil_iff.mp nowhere
  rcases catches with lenient | ⟨rule, listed, top, nonempty⟩ | ⟨nonempty, outside⟩
  · simp [lenient] at strict
  · -- The rule for the root matches whatever the kind is.
    have suits : rule.kind ∈ topology.kinds.ancestors kind := top ▸ grounded.root_mem_ancestors kind
    exact nonempty (unruled rule listed suits)
  · exact uncaught.elim nonempty outside

namespace Router

/-- Errors of a kind have no destination at a registered node that does not leave them unhandled:
no rule for the kind or a kind above it has a destination, and the node cannot fall back on the
default destinations. -/
structure Stranded (router : Router) (id : String) (kind : Kind) : Prop where
  strict : ∃ node, router.nodes.get? id = some node ∧ node.bestEffort = false
  unruled : ∀ rule ∈ router.topology.errorRulesOf id,
    Relation.ReflTransGen router.topology.kinds.Above kind rule.kind → rule.destinations = []
  uncaught : router.topology.defaultErrors = [] ∨ id ∈ router.topology.defaultErrors

/-- What an unrouted error says about the node that raised it. -/
def Unrouted (router : Router) (failure : RouteFailure) : Prop :=
  ∀ id kind text, failure = .unrouted id kind text →
    (∃ node, router.nodes.get? id = some node ∧ node.bestEffort = false) ∧
      router.topology.errorDestinations id kind = []

/-- Any walk is an expedition on which errors are unrouted only where they have no destination. -/
theorem unrouted_expedition (router : Router) :
    router.Expedition ⟨fun _ => True, router.Unrouted, True⟩ (fun _ => True)
      (fun _ _ _ => True) where
  shared _ _ := trivial
  faulty _ _ _ _ same := by cases same
  account _ _ _ _ := trivial
  exhausted _ _ _ := trivial
  lost _ _ _ _ _ _ _ _ _ same := by cases same
  station _ _ destination node _ found := {
    admitted := {
      shared := fun _ _ => trivial
      faulty := fun _ _ _ _ same => by cases same
      own := fun _ _ => trivial
      fatal := fun _ _ _ _ same => by cases same }
    noted := fun _ _ _ _ _ _ => trivial
    stuck := fun kind text strict nowhere id raised _ same => by
      cases same
      -- The node that gives up is the one that is registered under its own id.
      exact ⟨⟨node, Nodes.id_of_get? found ▸ found, strict⟩, nowhere⟩
    further := fun _ _ => trivial }

/-- A rule for the root or a default destination catches every error. With kinds that could be
declared, a traversal never fails for an unrouted error if every node catches all of its errors,
whatever kinds are raised; and whenever one does, the errors of that kind are stranded at the node
that raised them. -/
theorem route_catches_all {router : Router} {declarations : List Kinds.Declaration}
    (declared : Kinds.ofDeclarations declarations = .ok router.topology.kinds) {depth : Nat}
    {message : Message} {trace : List Plan.Exchange} {result : Except RouteFailure Terminal}
    (runs : (router.route depth message).Runs trace result) :
    ((∀ node ∈ router.nodes.toList, router.topology.CatchesAll node) →
      ∀ id kind text, result ≠ .error (.unrouted id kind text)) ∧
    ∀ id kind text, result = .error (.unrouted id kind text) → router.Stranded id kind := by
  have grounded := Kinds.grounded_of_declarations declared
  have routes : (router.route depth message).Confined _ _ fun result =>
      ∀ failure, result = .error failure → router.Unrouted failure :=
    router.unrouted_expedition.route (fun _ _ => trivial) fun _ => trivial
  -- A failure for an unrouted error says that the errors had nowhere to go at a node that minds.
  obtain ⟨_, excused⟩ := routes.runs runs
  constructor
  · intro covered id kind text failed
    obtain ⟨⟨node, found, strict⟩, nowhere⟩ := excused _ failed id kind text rfl
    have catches := covered node (Nodes.mem_of_get? found)
    cases Nodes.id_of_get? found
    exact catches.errorDestinations_ne_nil strict grounded kind nowhere
  · intro id kind text failed
    obtain ⟨strict, nowhere⟩ := excused _ failed id kind text rfl
    obtain ⟨unruled, uncaught⟩ := Topology.errorDestinations_eq_nil_iff.mp nowhere
    exact ⟨strict, fun rule listed above =>
      unruled rule listed (Kinds.mem_ancestors_iff.mpr above), uncaught⟩

/-- A node with a rule for the root, one that falls back on the default destination, and that
destination, which takes errors of its own lightly. -/
def careful : Router where
  topology := ⟨[("inbox", ⟨["parse", "check"], [], []⟩), ("parse", ⟨[], [], [⟨.root, ["log"]⟩]⟩)],
    ["log"], ["inbox"], ["parse", "check", "log"], .builtIn⟩
  nodes := .ofList [.plain "parse" .step "copy", .plain "check" .step "copy",
    { Node.plain "log" .sink "memory" with bestEffort := true }]

/-- The same nodes, of which one has a rule for failed connections only, and without defaults. -/
def careless : Router where
  topology := ⟨[("inbox", ⟨["parse"], [], []⟩),
    ("parse", ⟨[], [], [⟨.connection, ["log"]⟩]⟩)], [], ["inbox"], ["parse", "check", "log"],
    .builtIn⟩
  nodes := careful.nodes

/-- Surroundings in which every item fails with a kind that was never declared. -/
def unheardOf : Plan.Surroundings
  | _, .applyStep _ _ => .error (.failed ⟨⟨"unheard_of"⟩, "what is this", false⟩)
  | _, .deliver _ _ => .error ⟨⟨"unheard_of"⟩, "what is this", false⟩
  | _, call => Plan.uneventful call

/-- Whether a walk went well and left a number of items unhandled. -/
def leavesUnhandled (count : Nat) : Except RouteFailure Terminal → Bool
  | .ok results => results.unhandled.length == count
  | .error _ => false

/-- Whether a walk was abandoned for a certain failure. -/
def failsFor (failure : RouteFailure) : Except RouteFailure Terminal → Bool
  | .ok _ => false
  | .error raised => raised == failure

/-- The careful router gets all errors to the log, whose own errors stay unhandled. The careless one
fails at its first node. -/
theorem route_catches_all_unheard_of :
    (∃ trace result, (careful.route 3 ⟨"inbox", [.null], none, "", none, none, 0⟩).Runs trace
        result ∧
      leavesUnhandled 2 result = true ∧
      ∀ id kind text, result ≠ .error (.unrouted id kind text)) ∧
    ∃ trace result,
      (careless.route 3 ⟨"inbox", [.null], none, "", none, none, 0⟩).Runs trace result ∧
      failsFor (.unrouted "parse" ⟨"unheard_of"⟩ "what is this") result = true ∧
      careless.Stranded "parse" ⟨"unheard_of"⟩ := by
  have declared : Kinds.ofDeclarations [] = .ok Kinds.builtIn := rfl
  constructor
  · obtain ⟨trace, result, runs, checked⟩ := Plan.exists_run unheardOf
      (careful.route 3 ⟨"inbox", [.null], none, "", none, none, 0⟩)
      (fun ended => leavesUnhandled 2 ended.2) (by decide)
    have covered : ∀ node ∈ careful.nodes.toList, careful.topology.CatchesAll node := by
      -- Each of the three nodes is covered in a way of its own.
      refine List.forall_mem_cons.mpr ⟨.inr (.inl ⟨⟨.root, ["log"]⟩, ?_, rfl, ?_⟩),
        List.forall_mem_cons.mpr ⟨.inr (.inr ⟨?_, ?_⟩),
          List.forall_mem_singleton.mpr (.inl rfl)⟩⟩ <;> decide
    exact ⟨trace, result, runs, checked, (route_catches_all declared runs).1 covered⟩
  · obtain ⟨trace, result, runs, checked⟩ := Plan.exists_run unheardOf
      (careless.route 3 ⟨"inbox", [.null], none, "", none, none, 0⟩)
      (fun ended => failsFor (.unrouted "parse" ⟨"unheard_of"⟩ "what is this") ended.2) (by decide)
    have failed : result = .error (.unrouted "parse" ⟨"unheard_of"⟩ "what is this") := by
      cases result with
      | ok results => cases checked
      | error raised => rw [eq_of_beq checked]
    exact ⟨trace, result, runs, checked, (route_catches_all declared runs).2 _ _ _ failed⟩

end Router

end BatchFlow
