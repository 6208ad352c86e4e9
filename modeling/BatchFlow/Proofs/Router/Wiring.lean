import BatchFlow.Assembly
import BatchFlow.Proofs.Router.Destinations

/-! The destinations that a checked topology can name are the nodes of its configuration, each of
which is registered under its id. A message is never lost, and never handed to a producer. -/

namespace BatchFlow

namespace Topology

/-- Something that holds of every destination that a topology names. -/
structure Throughout (topology : Topology) (sound : String → Prop) : Prop where
  output : ∀ entry ∈ topology.routes, ∀ destination ∈ entry.2.output, sound destination
  discard : ∀ entry ∈ topology.routes, ∀ destination ∈ entry.2.discard, sound destination
  errors : ∀ entry ∈ topology.routes, ∀ rule ∈ entry.2.errors, ∀ destination ∈ rule.destinations,
    sound destination
  defaults : ∀ destination ∈ topology.defaultErrors, sound destination

variable {topology : Topology} {sound : String → Prop} {origin : String}

/-- The routes of an origin are among those of the topology. -/
theorem mem_of_routes? {routes : Routes} (found : topology.routes? origin = some routes) :
    ∃ entry ∈ topology.routes, entry.2 = routes := by
  obtain ⟨entry, found, same⟩ := Option.map_eq_some_iff.mp found
  exact ⟨entry, List.mem_of_find?_eq_some found, same⟩

/-- What holds throughout holds of the destinations of any output. -/
theorem Throughout.outputOf (throughout : topology.Throughout sound) :
    ∀ destination ∈ topology.outputOf origin, sound destination := by
  intro destination listed
  -- An origin without routes has no output, and any other one has an entry of the table.
  unfold Topology.outputOf at listed
  split at listed
  · rename_i routes found
    obtain ⟨entry, member, rfl⟩ := mem_of_routes? found
    exact throughout.output entry member destination listed
  · cases listed

/-- It holds of the destinations of any discards. -/
theorem Throughout.discardOf (throughout : topology.Throughout sound) :
    ∀ destination ∈ topology.discardOf origin, sound destination := by
  intro destination listed
  unfold Topology.discardOf at listed
  split at listed
  · rename_i routes found
    obtain ⟨entry, member, rfl⟩ := mem_of_routes? found
    exact throughout.discard entry member destination listed
  · cases listed

/-- It holds of the destinations of any rule. -/
theorem Throughout.ruled (throughout : topology.Throughout sound) {rule : ErrorRule}
    (listed : rule ∈ topology.errorRulesOf origin) :
    ∀ destination ∈ rule.destinations, sound destination := by
  unfold errorRulesOf at listed
  split at listed
  · rename_i routes found
    obtain ⟨entry, member, rfl⟩ := mem_of_routes? found
    exact throughout.errors entry member rule listed
  · cases listed

/-- A kind that was never declared has destinations, too: those of its rules, or the default
ones. -/
theorem Throughout.errorDestinations (throughout : topology.Throughout sound) (kind : Kind) :
    ∀ destination ∈ topology.errorDestinations origin kind, sound destination := by
  intro destination listed
  -- A rule of the origin says so, or the default destinations do.
  rcases of_mem_errorDestinations listed with ⟨rule, ruled, listed⟩ | ⟨_, listed⟩
  · exact throughout.ruled ruled destination listed
  · exact throughout.defaults destination listed

/-- A destination that is in some list that the topology gives, whatever is asked of it. -/
inductive Names (topology : Topology) (destination : String) : Prop where
  | output (origin : String) (listed : destination ∈ topology.outputOf origin)
  | discard (origin : String) (listed : destination ∈ topology.discardOf origin)
  /-- The kind may be any, whether or not it was declared. -/
  | error (origin : String) (kind : Kind)
    (listed : destination ∈ topology.errorDestinations origin kind)

/-- What holds of the destinations that were declared holds of all that are ever given. -/
theorem Throughout.names (throughout : topology.Throughout sound) {destination : String}
    (named : topology.Names destination) : sound destination := by
  -- A destination is given on one of three channels.
  cases named with
  | output origin listed => exact throughout.outputOf destination listed
  | discard origin listed => exact throughout.discardOf destination listed
  | error origin kind listed => exact throughout.errorDestinations kind destination listed

end Topology

/-- The producer that a declaration introduces, if it does. -/
def Declaration.producer? : Declaration → Option String
  | .producer id => some id
  | _ => none

/-- The node that a declaration introduces, if it does. -/
def Declaration.node? : Declaration → Option String
  | .node id => some id
  | _ => none

namespace Draft

variable {draft : Draft}

/-- Nothing is wrong with a destination that is a node, and only with that. -/
theorem checkDestination_eq_nil {origin channel destination : String} :
    draft.checkDestination origin channel destination = [] ↔
      destination ∈ draft.nodes ∧ destination ∉ draft.producers := by
  unfold checkDestination
  -- An id that is both a producer's and a node's is taken for a producer's.
  split
  · rename_i producer
    simp [producer]
  · rename_i other
    split
    · rename_i member
      simp [other, member]
    · rename_i absent
      simp [absent]

/-- Every destination of a draft that has no defects is a node of it, and no producer. -/
theorem build_throughout {kinds : Kinds} {topology : Topology}
    (built : draft.build kinds = .ok topology) :
    topology.Throughout fun destination =>
      destination ∈ draft.nodes ∧ destination ∉ draft.producers := by
  unfold build at built
  dsimp only at built
  split at built
  · rename_i flawless
    cases built
    -- Every check of every route came to nothing.
    simp only [defects, List.isEmpty_iff, List.append_eq_nil_iff, List.flatMap_eq_nil_iff,
      checkRoutes, checkRule, checkDestination_eq_nil] at flawless
    obtain ⟨⟨_, routed⟩, defaults⟩ := flawless
    exact {
      output := fun entry member => (routed entry member).1.1.2
      discard := fun entry member => (routed entry member).1.2
      errors := fun entry member rule listed => ((routed entry member).2 rule listed).2
      defaults }
  · cases built

/-- A chain of routes introduces no nodes. -/
theorem chain_nodes (ids : List String) : (draft.chain ids).nodes = draft.nodes := by
  fun_induction draft.chain ids with
  | case1 draft first second rest ih => exact ih
  | case2 draft ids => rfl

/-- Nor does it introduce producers. -/
theorem chain_producers (ids : List String) : (draft.chain ids).producers = draft.producers := by
  fun_induction draft.chain ids with
  | case1 draft first second rest ih => exact ih
  | case2 draft ids => rfl

/-- Only its own declarations introduce a node or a producer. -/
theorem declare_introduces (declaration : Declaration) :
    (draft.declare declaration).nodes = draft.nodes ++ declaration.node?.toList ∧
    (draft.declare declaration).producers = draft.producers ++ declaration.producer?.toList := by
  -- Routes introduce nobody, and neither does a pipeline, which only lays links.
  cases declaration with
  | producer id => simp [declare, Declaration.node?, Declaration.producer?]
  | node id => simp [declare, Declaration.node?, Declaration.producer?]
  | output | discard | error | defaultErrors =>
    simp [declare, Declaration.node?, Declaration.producer?, addOutput, addDiscard, addError]
  | pipeline ids =>
    simp [declare, Declaration.node?, Declaration.producer?, chain_nodes, chain_producers]

/-- The nodes and the producers of a draft are those that its declarations introduce. -/
theorem foldl_declare_introduces (draft : Draft) (declarations : List Declaration) :
    (declarations.foldl declare draft).nodes =
      draft.nodes ++ declarations.filterMap Declaration.node? ∧
    (declarations.foldl declare draft).producers =
      draft.producers ++ declarations.filterMap Declaration.producer? := by
  -- Each declaration adds its own to a draft that may have any already.
  induction declarations generalizing draft with
  | nil => simp
  | cons declaration rest ih =>
    obtain ⟨nodes, producers⟩ := draft.declare_introduces declaration
    obtain ⟨laterNodes, laterProducers⟩ := ih (draft.declare declaration)
    constructor
    · rw [List.foldl_cons, laterNodes, nodes, List.filterMap_cons]
      cases declaration.node? <;> simp
    · rw [List.foldl_cons, laterProducers, producers, List.filterMap_cons]
      cases declaration.producer? <;> simp

end Draft

namespace Nodes

/-- Every node of a list is registered under its id, or one that replaces it is. -/
theorem mem_ids_ofList {list : List Node} {id : String} :
    id ∈ (ofList list).ids ↔ id ∈ list.map (·.id) := by
  -- The nodes registered so far may be any.
  have general : ∀ nodes : Nodes,
      id ∈ (list.foldl (fun nodes node => (nodes.insert node).1) nodes).ids ↔
        id ∈ nodes.ids ∨ id ∈ list.map (·.id) := by
    induction list with
    | nil => simp
    | cons node rest ih =>
      intro nodes
      rw [List.foldl_cons, ih, ids_insert, List.map_cons, List.mem_cons]
      split
      · -- The node takes the place of one with its id, which is among the ids already.
        rename_i known
        constructor
        · exact fun listed => listed.imp_right .inr
        · rintro (old | rfl | later)
          · exact .inl old
          · exact .inl known
          · exact .inr later
      · rw [List.mem_append, List.mem_singleton, or_assoc]
  simpa [ofList, empty, ids] using general empty

end Nodes

/-- What was made in two parts was made in each of them. -/
theorem ok_of_bind {ε α β : Type} {first : Except ε α} {next : α → Except ε β} {result : β}
    (made : (first >>= next) = .ok result) :
    ∃ value, first = .ok value ∧ next value = .ok result := by
  cases first with
  | error fault => cases made
  | ok value => exact ⟨value, rfl, made⟩

/-- Renaming what can go wrong does not change what goes well. -/
theorem ok_of_mapError {ε δ α : Type} {first : Except ε α} {rename : ε → δ} {result : α}
    (made : first.mapError rename = .ok result) : first = .ok result := by
  cases first with
  | error fault => cases made
  | ok value =>
    cases made
    rfl

/-- Things made one by one, each of them with the name it was to have, have those names in order. -/
theorem map_of_mapM {ε α β γ : Type} {make : α → Except ε β} {name : β → γ} {wanted : α → γ}
    (named : ∀ entry thing, make entry = .ok thing → name thing = wanted entry)
    {entries : List α} {things : List β} (made : entries.mapM make = .ok things) :
    things.map name = entries.map wanted := by
  induction entries generalizing things with
  | nil =>
    cases made
    rfl
  -- The first thing is made before the others, and named as it was to be.
  | cons entry rest ih =>
    rw [List.mapM_cons] at made
    obtain ⟨thing, first, made⟩ := ok_of_bind made
    obtain ⟨others, later, made⟩ := ok_of_bind made
    cases made
    rw [List.map_cons, List.map_cons, named entry thing first, ih later]

namespace Catalog

/-- Whatever its role and its options, a node is made under the id that was asked for. -/
theorem nodeFor_id {request : Request} {role : NodeRole} {options : Fields} {fitted : Fitted}
    (made : nodeFor request role options = .ok fitted) : fitted.node.id = request.component := by
  unfold nodeFor at made
  -- One case for each kind of node, of which only the enrichment reads several options.
  split at made
  · obtain ⟨step, _, made⟩ := ok_of_bind made
    cases made
    rfl
  · obtain ⟨pretty, _, made⟩ := ok_of_bind made
    cases made
    rfl
  · cases made
    rfl
  · -- The options of an enrichment are read one after the other.
    obtain ⟨keyField, _, made⟩ := ok_of_bind made
    obtain ⟨targetField, _, made⟩ := ok_of_bind made
    dsimp only at made
    split at made
    · obtain ⟨table, _, made⟩ := ok_of_bind made
      obtain ⟨timeout, _, made⟩ := ok_of_bind made
      cases made
      rfl
    · cases made
  · cases made

/-- A node is made under the id of its entry. -/
theorem node_id {entry : NodeEntry} {fitted : Fitted} (made : node entry = .ok fitted) :
    fitted.node.id = entry.id := by
  obtain ⟨request, asked, made⟩ := ok_of_bind made
  obtain ⟨plain, fits, made⟩ := ok_of_bind made
  cases made
  -- The request names the component after the entry.
  have same : request.component = entry.id := by
    unfold Request.ofEntry at asked
    split at asked
    · cases asked
      rfl
    · cases asked
  exact (nodeFor_id fits).trans same

/-- A producer is made with the key that was asked for. -/
theorem producer_key {key : Nat} {timeout : Duration} {entry : ProducerEntry}
    {made : Source × StaticItems} (makes : producer key timeout entry = .ok made) :
    made.1.key = key := by
  obtain ⟨request, _, makes⟩ := ok_of_bind makes
  dsimp only at makes
  split at makes
  · cases makes
  · -- However its items are given, the source is made in the same way.
    split at makes
    all_goals
      obtain ⟨items, _, makes⟩ := ok_of_bind makes
      obtain ⟨size, _, makes⟩ := ok_of_bind makes
      cases makes
      rfl

end Catalog

namespace Configuration

variable {configuration : Configuration}

/-- A configuration declares its own nodes and producers, and no route introduces another one. -/
theorem declarations_introduce (configuration : Configuration) :
    configuration.declarations.filterMap Declaration.node? = configuration.nodes.map (·.id) ∧
    configuration.declarations.filterMap Declaration.producer? =
      configuration.producers.map (·.id) := by
  -- Routes, the pipeline and the defaults only speak of what is declared elsewhere.
  have routes : ∀ origin entry, (routeDeclarations origin entry).filterMap Declaration.node? = [] ∧
      (routeDeclarations origin entry).filterMap Declaration.producer? = [] := by
    intro origin entry
    simp [routeDeclarations, Declaration.node?, Declaration.producer?]
  have others : ∀ {α : Type} (entries : List α),
      entries.filterMap (fun _ => (none : Option String)) = [] := fun entries => by simp
  simp only [declarations, List.filterMap_append, List.filterMap_flatMap, List.filterMap_map,
    routes]
  simp [Function.comp_def, Declaration.node?, Declaration.producer?, List.filterMap_cons, others]

/-- What may be a destination: what is declared as a node, and not as a producer. -/
def Target (configuration : Configuration) (id : String) : Prop :=
  id ∈ configuration.nodes.map (·.id) ∧ id ∉ configuration.producers.map (·.id)

/-- The destinations of a checked configuration are nodes that it declares, and no producers. -/
theorem topology_throughout {topology : Topology}
    (checked : configuration.topology = .ok topology) :
    topology.Throughout configuration.Target := by
  obtain ⟨kinds, _, built⟩ := ok_of_bind checked
  have throughout := Draft.build_throughout built
  obtain ⟨nodes, producers⟩ := configuration.declarations_introduce
  obtain ⟨drafted, produced⟩ := Draft.foldl_declare_introduces .empty
    configuration.declarations
  -- The draft that was checked has exactly the ids of the configuration.
  rw [nodes] at drafted
  rw [producers] at produced
  rw [Draft.ofDeclarations, drafted, produced] at throughout
  exact throughout

/-- A router that leads to the nodes of a configuration and to nothing else. -/
structure Wired (configuration : Configuration) (router : Router) : Prop where
  /-- Whatever list of destinations is read, each of them is a declared node, registered under its
  id. -/
  leads : ∀ destination, router.topology.Names destination → configuration.Target destination ∧
    ∃ node, router.nodes.get? destination = some node ∧ node.id = destination
  /-- No message is lost for want of a destination, whatever its sender. -/
  finds : ∀ depth message trace result, (router.route depth message).Runs trace result →
    ∀ destination origin, result ≠ .error (.unknownDestination destination origin)
  /-- Every application in the account of a walk is one of a declared node. -/
  visits : ∀ depth message trace traversal result,
    (router.walk depth message).Runs trace (traversal, result) →
      traversal.Among configuration.Target
  /-- However far a walk has come, even one that never ends, it has questioned the collaborators of
  declared nodes only. -/
  questions : ∀ depth message trace rest, (router.route depth message).Reaches trace rest →
    ∀ exchange ∈ trace, ∀ id, exchange.call.applied? = some id → configuration.Target id

/-- Where every destination is a registered node, nothing else is ever visited or questioned. -/
theorem wired_of_leads {router : Router}
    (leads : ∀ destination, router.topology.Names destination → configuration.Target destination ∧
      ∃ node, router.nodes.get? destination = some node ∧ node.id = destination) :
    Wired configuration router := by
  -- A named destination is the target of a node that can be looked up under that name.
  have led : ∀ destinations : List String,
      (∀ destination ∈ destinations, router.topology.Names destination) →
      router.Leads configuration.Target False destinations := by
    intro destinations named destination listed
    obtain ⟨target, node, found, same⟩ := leads destination (named destination listed)
    subst same
    rw [found]
    exact target
  -- So the chart has no place at which a message could be lost.
  have charted : router.Charted configuration.Target False := {
    output := fun origin => led _ fun _ listed => .output origin listed
    discard := fun origin => led _ fun _ listed => .discard origin listed
    errors := fun origin kind => led _ fun _ listed => .error origin kind listed }
  refine ⟨leads, ?_, ?_, ?_⟩
  · -- The three parts are what is known of any walk along a chart.
    intro depth message trace result runs destination origin failed
    exact ((Router.route_guided charted depth message).runs runs).2 destination origin failed
  · intro depth message trace traversal result runs
    exact ((Router.walk_guided charted depth message).runs runs).2.1
  · intro depth message trace rest reaches exchange member id applied
    exact (((Router.route_guided charted depth message).reaches reaches).1 exchange member).applied
      applied

/-- A configuration that can be assembled never misroutes: its router leads to declared nodes
only. -/
theorem assemble_wired {allowance : Allowance} {assembly : Assembly}
    (assembled : configuration.assemble allowance = .ok assembly) :
    Wired configuration assembly.adaptor.router := by
  unfold assemble at assembled
  obtain ⟨topology, checked, assembled⟩ := ok_of_bind assembled
  obtain ⟨fitted, made, assembled⟩ := ok_of_bind assembled
  obtain ⟨produced, _, assembled⟩ := ok_of_bind assembled
  cases assembled
  -- One pass checked the destinations, another one made the nodes.
  have throughout := topology_throughout (ok_of_mapError checked)
  have named := map_of_mapM (fun _ _ => Catalog.node_id) (ok_of_mapError made)
  refine wired_of_leads fun destination listed => ?_
  have target := throughout.names listed
  -- The nodes were made from the same entries that the topology was checked against.
  refine ⟨target, Nodes.get?_of_mem (Nodes.mem_ids_ofList.mpr ?_)⟩
  rw [List.map_map]
  exact named ▸ target.1

/-- The producers of an adaptor that was assembled are told apart by their keys. -/
theorem assemble_distinct {allowance : Allowance} {assembly : Assembly}
    (assembled : configuration.assemble allowance = .ok assembly) :
    (assembly.adaptor.sources.map (·.key)).Nodup := by
  unfold assemble at assembled
  obtain ⟨topology, _, assembled⟩ := ok_of_bind assembled
  obtain ⟨fitted, _, assembled⟩ := ok_of_bind assembled
  obtain ⟨produced, made, assembled⟩ := ok_of_bind assembled
  cases assembled
  -- Each producer has the place of its entry as its key.
  have placed : produced.map (·.1.key) = configuration.producers.zipIdx.map (·.2) :=
    map_of_mapM (fun _ _ => Catalog.producer_key) (ok_of_mapError made)
  rw [List.map_map]
  show (produced.map (·.1.key)).Nodup
  rw [placed, List.zipIdx_map_snd]
  exact List.nodup_range'

/-- A chain of a producer, a step and a sink, and whatever goes wrong goes to the sink as well. -/
def shouting : Configuration where
  run := .default
  kinds := []
  producers := [⟨"reader", some "static_items", none, []⟩]
  nodes := [⟨"upper", .step, some "change_text_case_upper", true, false, []⟩,
    ⟨"out", .sink, some "memory", true, false, []⟩]
  pipeline := ["reader", "upper", "out"]
  routes := .empty
  defaultErrors := ["out"]

/-- It can be assembled, and a kind that nobody declared has the default destination. -/
theorem assemble_wired_shouting :
    ∃ assembly, shouting.assemble ⟨3, 3⟩ = .ok assembly ∧
      assembly.adaptor.router.topology.errorDestinations "upper" ⟨"unheard_of"⟩ = ["out"] ∧
      Wired shouting assembly.adaptor.router :=
  ⟨_, rfl, by decide, assemble_wired rfl⟩

end Configuration

end BatchFlow
