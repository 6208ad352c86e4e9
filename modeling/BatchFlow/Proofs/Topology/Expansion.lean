import BatchFlow.Proofs.Kinds.Declarations
import BatchFlow.Proofs.Topology.ErrorRules
import BatchFlow.Proofs.Topology.RouteTable

/-! A checked configuration routes what it declares and nothing else. The output of an id goes to
the ids after it in the pipeline, and then along its own routes; a pipeline is short for output
routes that come before the explicit ones. -/

namespace BatchFlow

open Declaration (links leaving leaving_append leaving_links_eq followers producerIds nodeIds)
open Relation (ReflTransGen)

/-- The default destinations that a declaration names. -/
def Declaration.defaults : Declaration → List String
  | .defaultErrors destinations => destinations
  | _ => []

/-- Declarations that say the same of each origin, although they may speak of several origins in
another order, and in other words. -/
structure SameByOrigin (first second : List Declaration) : Prop where
  producers : producerIds first = producerIds second
  nodes : nodeIds first = nodeIds second
  mentioned : ∀ origin, origin ∈ first.flatMap (·.origins) ↔ origin ∈ second.flatMap (·.origins)
  outputs : ∀ origin, leaving origin (first.flatMap (·.outputs)) =
    leaving origin (second.flatMap (·.outputs))
  discards : ∀ origin, leaving origin (first.flatMap (·.discards)) =
    leaving origin (second.flatMap (·.discards))
  rules : ∀ origin, leaving origin (first.flatMap (·.rules)) =
    leaving origin (second.flatMap (·.rules))
  defaults : first.flatMap (·.defaults) = second.flatMap (·.defaults)

namespace Declaration

variable {α : Type} {declarations : List Declaration} {origin destination : String}

/-- A thing leaves an origin if it is listed with it. -/
theorem mem_leaving {thing : α} {things : List (String × α)} :
    thing ∈ leaving origin things ↔ (origin, thing) ∈ things := by
  simp only [leaving, List.mem_filterMap, Option.ite_none_right_eq_some, Option.some.injEq]
  constructor
  · rintro ⟨⟨start, own⟩, member, rfl, rfl⟩
    exact member
  · exact fun member => ⟨(origin, thing), member, rfl, rfl⟩

/-- A destination is named for the output or the discards of some origin, in one of its error rules,
or as a default one. -/
theorem names_iff (declaration : Declaration) :
    (∃ lead ∈ declaration.leads, lead.destination = destination) ↔
      (∃ origin, (origin, destination) ∈ declaration.outputs) ∨
      (∃ origin, (origin, destination) ∈ declaration.discards) ∨
      (∃ origin rule, (origin, rule) ∈ declaration.rules ∧ destination ∈ rule.destinations) ∨
      destination ∈ declaration.defaults := by
  -- Each declaration names destinations in one of the four places only.
  cases declaration <;> simp [leads, outputs, discards, rules, defaults]

/-- Which destinations are named can be told from what is said of each origin. -/
theorem names_flatMap_iff :
    (∃ lead ∈ declarations.flatMap (·.leads), lead.destination = destination) ↔
      (∃ origin, destination ∈ leaving origin (declarations.flatMap (·.outputs))) ∨
      (∃ origin, destination ∈ leaving origin (declarations.flatMap (·.discards))) ∨
      (∃ origin, ∃ rule ∈ leaving origin (declarations.flatMap (·.rules)),
        destination ∈ rule.destinations) ∨
      destination ∈ declarations.flatMap (·.defaults) := by
  simp only [mem_leaving, List.mem_flatMap]
  constructor
  · -- A lead comes from one declaration, and is in one of the four places that it names.
    rintro ⟨lead, ⟨declaration, listed, member⟩, same⟩
    rcases declaration.names_iff.mp ⟨lead, member, same⟩ with ⟨origin, laid⟩ | ⟨origin, laid⟩ |
      ⟨origin, rule, laid, among⟩ | named
    · exact .inl ⟨origin, declaration, listed, laid⟩
    · exact .inr (.inl ⟨origin, declaration, listed, laid⟩)
    · exact .inr (.inr (.inl ⟨origin, rule, ⟨declaration, listed, laid⟩, among⟩))
    · exact .inr (.inr (.inr ⟨declaration, listed, named⟩))
  · -- What one declaration names, all of them name.
    have gather : ∀ declaration ∈ declarations,
        (∃ lead ∈ declaration.leads, lead.destination = destination) →
        ∃ lead, (∃ declaration ∈ declarations, lead ∈ declaration.leads) ∧
          lead.destination = destination :=
      fun declaration listed ⟨lead, member, same⟩ => ⟨lead, ⟨declaration, listed, member⟩, same⟩
    rintro (⟨origin, declaration, listed, laid⟩ | ⟨origin, declaration, listed, laid⟩ |
      ⟨origin, rule, ⟨declaration, listed, laid⟩, among⟩ | ⟨declaration, listed, named⟩)
    · -- So each of the four places is one where some declaration leads.
      exact gather declaration listed (declaration.names_iff.mpr (.inl ⟨origin, laid⟩))
    · exact gather declaration listed (declaration.names_iff.mpr (.inr (.inl ⟨origin, laid⟩)))
    · exact gather declaration listed
        (declaration.names_iff.mpr (.inr (.inr (.inl ⟨origin, rule, laid, among⟩))))
    · exact gather declaration listed (declaration.names_iff.mpr (.inr (.inr (.inr named))))

end Declaration

namespace SameByOrigin

variable {kinds : Kinds} {first second : List Declaration} {topology : Topology}

/-- What is wrong with declarations does not depend on the order of the origins. -/
theorem wellFormed (same : SameByOrigin first second) (sound : Topology.WellFormed kinds first) :
    Topology.WellFormed kinds second where
  distinct := same.producers ▸ same.nodes ▸ sound.distinct
  known := fun origin mentioned =>
    same.producers ▸ same.nodes ▸ sound.known origin ((same.mentioned origin).mpr mentioned)
  resolved := fun lead listed => by
    -- The destination may be named elsewhere, or in another channel, by the first declarations.
    have named := Declaration.names_flatMap_iff.mp ⟨lead, listed, rfl⟩
    simp only [← same.outputs, ← same.discards, ← same.rules, ← same.defaults] at named
    obtain ⟨other, among, alike⟩ := Declaration.names_flatMap_iff.mpr named
    rw [← same.producers, ← same.nodes, ← alike]
    exact sound.resolved other among
  registered := fun rule listed => by
    obtain ⟨origin, rule⟩ := rule
    have laid := Declaration.mem_leaving.mpr listed
    rw [← same.rules] at laid
    exact sound.registered (origin, rule) (Declaration.mem_leaving.mp laid)

end SameByOrigin

namespace Draft

variable {draft : Draft}

/-- A pipeline names no default destination. -/
theorem chain_defaultErrors (ids : List String) :
    (draft.chain ids).defaultErrors = draft.defaultErrors := by
  fun_induction draft.chain ids with
  | case1 draft first second rest ih => exact ih
  | case2 draft ids => rfl

/-- Only its own declarations name default destinations. -/
theorem declare_defaultErrors (declaration : Declaration) :
    (draft.declare declaration).defaultErrors = draft.defaultErrors ++ declaration.defaults := by
  -- A pipeline lays links, and all others say something else.
  cases declaration with
  | defaultErrors destinations => rfl
  | pipeline ids => exact (chain_defaultErrors ids).trans (List.append_nil _).symm
  | _ => exact (List.append_nil _).symm

/-- Declarations name default destinations one after the other. -/
theorem foldl_declare_defaultErrors (draft : Draft) (declarations : List Declaration) :
    (declarations.foldl declare draft).defaultErrors =
      draft.defaultErrors ++ declarations.flatMap (·.defaults) := by
  induction declarations generalizing draft with
  | nil => exact (List.append_nil _).symm
  | cons declaration rest ih =>
    rw [List.foldl_cons, ih, declare_defaultErrors, List.flatMap_cons, List.append_assoc]

end Draft

namespace Topology

variable {kinds : Kinds} {first second declarations : List Declaration} {topology : Topology}

/-- A topology comes of declarations if and only if nothing is wrong with them. -/
theorem exists_ofDeclarations_iff :
    (∃ topology, ofDeclarations kinds declarations = .ok topology) ↔
      WellFormed kinds declarations := by
  obtain ⟨nodes, producers⟩ := Draft.foldl_declare_introduces .empty declarations
  -- The defects that are reported are the violations in another order.
  have perm := (Draft.gathers_ofDeclarations declarations).defects_perm kinds producers nodes
  rw [← violations_eq_nil_iff]
  unfold ofDeclarations Draft.build
  dsimp only
  constructor
  · rintro ⟨topology, built⟩
    split at built
    · rename_i faultless
      exact (List.isEmpty_iff.mp faultless ▸ perm.symm).eq_nil
    · cases built
  · intro faultless
    rw [if_pos (List.isEmpty_iff.mpr (faultless ▸ perm).eq_nil)]
    exact ⟨_, rfl⟩

/-- The default destinations are those that the declarations name, in the same order. -/
theorem defaultErrors_ofDeclarations (built : ofDeclarations kinds declarations = .ok topology) :
    topology.defaultErrors = declarations.flatMap (·.defaults) := by
  rw [eq_of_built built]
  exact Draft.foldl_declare_defaultErrors .empty declarations

/-- Whatever is asked of two topologies, the answers are the same. -/
structure Agrees (topology other : Topology) : Prop where
  output : ∀ origin, other.outputOf origin = topology.outputOf origin
  discard : ∀ origin, other.discardOf origin = topology.discardOf origin
  error : ∀ origin kind, other.errorOf origin kind = topology.errorOf origin kind
  defaults : other.defaultErrors = topology.defaultErrors
  kinds : other.kinds = topology.kinds

/-- A pipeline makes the same topology as the output routes that it stands for, in its place. -/
theorem ofDeclarations_expand (kinds : Kinds) (declarations : List Declaration) :
    ofDeclarations kinds (declarations.flatMap (·.expand)) = ofDeclarations kinds declarations := by
  have drafted : ∀ draft : Draft, (declarations.flatMap (·.expand)).foldl Draft.declare draft =
      declarations.foldl Draft.declare draft := by
    -- The draft is taken up declaration by declaration, and what one stands for comes in its place.
    induction declarations with
    | nil => exact fun _ => rfl
    | cons declaration rest ih =>
      intro draft
      rw [List.flatMap_cons, List.foldl_append, ← Draft.declare_eq_foldl_expand, ih,
        List.foldl_cons]
  rw [ofDeclarations, Draft.ofDeclarations, drafted]
  rfl

/-- Declarations that say the same of each origin make topologies that give the same answers. -/
theorem agrees_of_same (same : SameByOrigin first second)
    (built : ofDeclarations kinds first = .ok topology) :
    ∃ other, ofDeclarations kinds second = .ok other ∧ topology.Agrees other := by
  -- The second declarations are well-formed as well, and the answers are read off them alone.
  obtain ⟨other, rebuilt⟩ :=
    exists_ofDeclarations_iff.mpr (same.wellFormed (exists_ofDeclarations_iff.mp ⟨_, built⟩))
  have hierarchy : other.kinds = topology.kinds := by
    rw [eq_of_built rebuilt, eq_of_built built]
  have rules : ∀ origin, other.errorRulesOf origin = topology.errorRulesOf origin := by
    intro origin
    rw [errorRulesOf_ofDeclarations rebuilt, errorRulesOf_ofDeclarations built, same.rules]
  exact ⟨other, rebuilt, {
    output := fun origin => by
      rw [outputOf_ofDeclarations rebuilt, outputOf_ofDeclarations built, same.outputs]
    discard := fun origin => by
      rw [discardOf_ofDeclarations rebuilt, discardOf_ofDeclarations built, same.discards]
    error := fun origin kind => by
      unfold errorOf
      rw [rules, hierarchy]
    defaults := by
      rw [defaultErrors_ofDeclarations rebuilt, defaultErrors_ofDeclarations built, same.defaults]
    kinds := hierarchy }⟩

end Topology

/-- The parent that a kind is declared with; without one it stands under the root. -/
def KindEntry.above (entry : KindEntry) : Kind :=
  entry.parent.elim .root Kind.mk

/-- The error rules among the routes of an origin. -/
def RouteEntry.rules (entry : RouteEntry) : List ErrorRule :=
  entry.errors.map fun route => ⟨⟨route.kind⟩, route.destinations⟩

namespace Configuration

variable {configuration : Configuration} {topology : Topology} {origin : String}

/-- What declarations say that is not about ids is said by the pipeline, by the routes of each
origin and by the default destinations, in this order. -/
theorem flatMap_declarations {α : Type} {content : Declaration → List α}
    (producers : ∀ id, content (.producer id) = []) (nodes : ∀ id, content (.node id) = [])
    (configuration : Configuration) : configuration.declarations.flatMap content =
      content (.pipeline configuration.pipeline) ++
        configuration.routes.entries.flatMap (fun entry =>
          (routeDeclarations entry.1 entry.2).flatMap content) ++
        content (.defaultErrors configuration.defaultErrors) := by
  -- Producers and nodes are declared in front, with nothing to say.
  have produced :
      (configuration.producers.map (Declaration.producer ·.id)).flatMap content = [] := by
    rw [List.flatMap_map]
    exact List.flatMap_eq_nil_iff.mpr fun entry _ => producers entry.id
  have registered : (configuration.nodes.map (Declaration.node ·.id)).flatMap content = [] := by
    rw [List.flatMap_map]
    exact List.flatMap_eq_nil_iff.mpr fun entry _ => nodes entry.id
  rw [declarations, List.flatMap_append, List.flatMap_append, List.flatMap_append,
    List.flatMap_append, produced, registered, List.flatMap_singleton, List.flatMap_singleton,
    List.flatMap_assoc]
  rfl

/-- The output of an origin goes to what follows it in the pipeline, and then along its own
routes. -/
theorem leaving_outputs (configuration : Configuration) (origin : String) :
    leaving origin (configuration.declarations.flatMap (·.outputs)) =
      followers origin configuration.pipeline ++ (configuration.routes.get origin).output := by
  -- The routes of an origin say of outputs what its entry does.
  have own : ∀ entry : String × RouteEntry,
      (routeDeclarations entry.1 entry.2).flatMap (·.outputs) =
        entry.2.output.map (entry.1, ·) := fun entry => by
    simp [routeDeclarations, Declaration.outputs, List.flatMap_map]
  rw [flatMap_declarations (fun _ => rfl) (fun _ => rfl)]
  simp only [own, leaving_append, RouteTable.leaving_flatMap (·.output) rfl]
  rw [Declaration.outputs, leaving_links_eq]
  exact List.append_nil _

/-- The discards of an origin go along its own routes. -/
theorem leaving_discards (configuration : Configuration) (origin : String) :
    leaving origin (configuration.declarations.flatMap (·.discards)) =
      (configuration.routes.get origin).discard := by
  -- Of what is declared for one entry, only its discards are discards.
  have own : ∀ entry : String × RouteEntry,
      (routeDeclarations entry.1 entry.2).flatMap (·.discards) =
        entry.2.discard.map (entry.1, ·) := fun entry => by
    simp [routeDeclarations, Declaration.discards, List.flatMap_map]
  rw [flatMap_declarations (fun _ => rfl) (fun _ => rfl)]
  simp only [own, leaving_append, RouteTable.leaving_flatMap (·.discard) rfl]
  exact List.append_nil _

/-- The error rules of an origin are its own. -/
theorem leaving_rules (configuration : Configuration) (origin : String) :
    leaving origin (configuration.declarations.flatMap (·.rules)) =
      (configuration.routes.get origin).rules := by
  -- The routes of an origin say of errors what its entry does.
  have own : ∀ entry : String × RouteEntry,
      (routeDeclarations entry.1 entry.2).flatMap (·.rules) =
        entry.2.rules.map (entry.1, ·) := fun entry => by
    rw [routeDeclarations, List.flatMap_append, List.flatMap_map, RouteEntry.rules, List.map_map]
    exact List.map_eq_flatMap.symm
  rw [flatMap_declarations (fun _ => rfl) (fun _ => rfl)]
  simp only [own, leaving_append, RouteTable.leaving_flatMap (·.rules) rfl]
  exact List.append_nil _

/-- The default destinations are those of the configuration. -/
theorem flatMap_defaults (configuration : Configuration) :
    configuration.declarations.flatMap (·.defaults) = configuration.defaultErrors := by
  -- The routes of an origin name no default destination.
  have own : ∀ entry : String × RouteEntry,
      (routeDeclarations entry.1 entry.2).flatMap (·.defaults) = [] := fun entry => by
    simp [routeDeclarations, Declaration.defaults, List.flatMap_map]
  rw [flatMap_declarations (fun _ => rfl) (fun _ => rfl)]
  have silent : configuration.routes.entries.flatMap (fun entry =>
      (routeDeclarations entry.1 entry.2).flatMap (·.defaults)) = [] :=
    List.flatMap_eq_nil_iff.mpr fun entry _ => own entry
  rw [silent]
  rfl

/-- The origins that are mentioned are those of the links of the pipeline and of the routes. -/
theorem mem_mentioned :
    origin ∈ configuration.declarations.flatMap (·.origins) ↔
      origin ∈ (links configuration.pipeline).map (·.1) ∨
        origin ∈ configuration.routes.origins := by
  have own : ∀ entry : String × RouteEntry,
      origin ∈ (routeDeclarations entry.1 entry.2).flatMap (·.origins) ↔ entry.1 = origin := by
    intro entry
    simp [routeDeclarations, Declaration.origins, eq_comm]
  rw [flatMap_declarations (fun _ => rfl) (fun _ => rfl), List.mem_append, List.mem_append,
    List.mem_flatMap]
  simp only [own, RouteTable.origins, List.mem_map]
  -- Of default destinations, no origin is mentioned.
  exact (or_iff_left List.not_mem_nil).trans (or_congr_left List.mem_map)

/-- The same configuration without the shorthand: every link of the pipeline is an explicit output
route, in front of those that its origin has already. -/
def spelledOut (configuration : Configuration) : Configuration :=
  { configuration with
    pipeline := []
    routes := configuration.routes.prependAll (links configuration.pipeline) }

/-- Spelled out, an id has what follows it in the pipeline in front of its own output routes. -/
theorem get_spelledOut (configuration : Configuration) (origin : String) :
    let own := configuration.routes.get origin
    configuration.spelledOut.routes.get origin =
      { own with output := followers origin configuration.pipeline ++ own.output } := by
  rw [spelledOut, RouteTable.get_prependAll, leaving_links_eq]

/-- Spelled out, a configuration says the same of each origin. -/
theorem same_spelledOut (configuration : Configuration) :
    SameByOrigin configuration.declarations configuration.spelledOut.declarations := by
  -- The producers and the nodes are the same, and in the same order.
  obtain ⟨nodes, producers⟩ := configuration.declarations_introduce
  obtain ⟨respelledNodes, respelledProducers⟩ := configuration.spelledOut.declarations_introduce
  exact {
    producers := producers.trans respelledProducers.symm
    nodes := nodes.trans respelledNodes.symm
    mentioned := fun origin => by
      -- The links are origins of routes now, and no longer of a pipeline.
      rw [mem_mentioned, mem_mentioned, spelledOut, RouteTable.mem_origins_prependAll]
      exact (or_iff_right List.not_mem_nil).symm
    -- What the pipeline adds to each origin is put in front of its own routes.
    outputs := fun origin => by
      rw [leaving_outputs, leaving_outputs, get_spelledOut]
      rfl
    discards := fun origin => by
      rw [leaving_discards, leaving_discards, get_spelledOut]
    rules := fun origin => by
      rw [leaving_rules, leaving_rules, get_spelledOut]
      rfl
    defaults := by
      rw [flatMap_defaults, flatMap_defaults]
      rfl }

/-- The kind above a kind as it is declared. One that is not declared stands where it does without
any declarations. -/
def parentOf? (configuration : Configuration) (kind : Kind) : Option Kind :=
  match configuration.kinds.find? (Kind.mk ·.kind == kind) with
  | some entry => some entry.above
  | none => Kinds.builtIn.parent? kind

/-- Each kind is declared to stand under the one above it. -/
theorem kindDeclarations_eq (configuration : Configuration) :
    configuration.kindDeclarations = configuration.kinds.map fun entry =>
      ⟨⟨entry.kind⟩, entry.above⟩ := by
  refine List.map_congr_left fun entry _ => ?_
  unfold KindEntry.above
  cases entry.parent <;> rfl

/-- Kinds that could be declared stand where they were declared to. -/
theorem parent?_of_declared {kinds : Kinds}
    (declared : Kinds.ofDeclarations configuration.kindDeclarations = .ok kinds) (kind : Kind) :
    kinds.parent? kind = configuration.parentOf? kind := by
  obtain ⟨sound, rfl⟩ := Kinds.ofDeclarations_eq_ok_iff.mp declared
  -- The declared kinds stand in the table behind those that are built in.
  have lookup : (Kinds.table configuration.kindDeclarations).lookup? kind =
      (Kinds.builtIn.lookup? kind).or
        ((configuration.kinds.find? (Kind.mk ·.kind == kind)).map (some ·.above)) := by
    rw [Kinds.lookup?, Kinds.table, List.find?_append, kindDeclarations_eq, List.map_map,
      List.find?_map, Option.map_or, Option.map_map]
    rfl
  unfold parentOf? Kinds.parent?
  rw [lookup]
  cases found : configuration.kinds.find? (Kind.mk ·.kind == kind) with
  -- A kind that is not declared is looked up among the built-in ones alone.
  | none => cases Kinds.builtIn.lookup? kind <;> rfl
  | some entry =>
    -- A declared kind is none of the built-in ones.
    have named : ⟨entry.kind⟩ = kind := by simpa using List.find?_some found
    have listed : ⟨kind, entry.above⟩ ∈ configuration.kindDeclarations := by
      rw [kindDeclarations_eq]
      exact List.mem_map.mpr ⟨entry, List.mem_of_find?_eq_some found, by rw [named]⟩
    have fresh : Kinds.builtIn.lookup? kind = none :=
      Option.eq_none_iff_forall_ne_some.mpr fun parent known =>
        sound.fresh _ listed (Kinds.mem_all_iff.mpr ⟨parent, known⟩)
    rw [fresh]
    rfl

/-- One kind stands directly under another by what is declared. -/
def StandsUnder (configuration : Configuration) (kind parent : Kind) : Prop :=
  configuration.parentOf? kind = some parent

/-- A topology routes what a configuration declares, and nothing else. -/
structure Routed (configuration : Configuration) (topology : Topology) : Prop where
  /-- Each origin has its routes in one place. -/
  distinct : (topology.routes.map (·.1)).Nodup
  output : ∀ id, topology.outputOf id =
    followers id configuration.pipeline ++ (configuration.routes.get id).output
  discard : ∀ id, topology.discardOf id = (configuration.routes.get id).discard
  /-- Errors go where the rules for their kind or one above it say, each destination once. -/
  error : ∀ id kind, topology.errorOf id kind =
    (((configuration.routes.get id).errors.filter (topology.kinds.isA kind ⟨·.kind⟩)).flatMap
      (·.destinations)).eraseDups
  /-- One kind is above another if declared parents lead up to it. -/
  kinds : ∀ kind ancestor, topology.kinds.isA kind ancestor = true ↔
    ReflTransGen configuration.StandsUnder kind ancestor
  defaults : topology.defaultErrors = configuration.defaultErrors

/-- The topology of a configuration routes what the configuration declares. -/
theorem topology_routed (built : configuration.topology = .ok topology) :
    configuration.Routed topology := by
  -- The kinds are checked first, and the declarations are taken up for their hierarchy.
  obtain ⟨kinds, declared, built⟩ := ok_of_bind built
  have same : topology.kinds = kinds := by rw [Topology.eq_of_built built]
  have above : topology.kinds.Above = configuration.StandsUnder := by
    funext kind parent
    rw [same, Kinds.Above, parent?_of_declared declared, StandsUnder]
  exact {
    distinct := by
      rw [Topology.eq_of_built built]
      exact (Draft.gathers_ofDeclarations configuration.declarations).distinct
    output := fun id => by
      rw [Topology.outputOf_ofDeclarations built, leaving_outputs]
    discard := fun id => by
      rw [Topology.discardOf_ofDeclarations built, leaving_discards]
    error := fun id kind => by
      -- Adding destinations one by one, unless they are there, is removing the repeated ones.
      rw [Topology.errorOf, Topology.addNew_eq, List.nil_append,
        Topology.errorRulesOf_ofDeclarations built, leaving_rules, RouteEntry.rules,
        List.filter_map, List.flatMap_map]
      simp only [List.not_mem_nil, not_false_eq_true, decide_true, List.filter_true]
      rfl
    kinds := fun kind ancestor => by
      rw [Kinds.isA, decide_eq_true_iff, Kinds.mem_ancestors_iff, above]
    defaults := by
      rw [Topology.defaultErrors_ofDeclarations built, flatMap_defaults] }

/-- What every configuration that can be checked comes to. Its routes are those that it declares,
from whichever of its parts: the output of an id goes to what follows each occurrence of it in the
pipeline and then along its own routes, its discards go along its own routes, and so do its errors,
by the hierarchy of the declared kinds. Spelled out without a pipeline, it gives the same answers to
every question; and it makes no difference at all to write the output routes in the place of the
pipeline. -/
theorem topology_expands (built : configuration.topology = .ok topology) :
    configuration.Routed topology ∧
    (∃ other, configuration.spelledOut.topology = .ok other ∧ topology.Agrees other) ∧
    Topology.ofDeclarations topology.kinds (configuration.declarations.flatMap (·.expand)) =
      .ok topology := by
  obtain ⟨kinds, declared, drafted⟩ := ok_of_bind built
  obtain ⟨other, rebuilt, agrees⟩ := Topology.agrees_of_same configuration.same_spelledOut drafted
  refine ⟨topology_routed built, ⟨other, ?_, agrees⟩, ?_⟩
  · -- Spelled out, the kinds are the same, and so they pass as before.
    show Kinds.ofDeclarations configuration.kindDeclarations >>= _ = _
    rw [declared]
    exact rebuilt
  · -- The pipeline is written out in place, for the hierarchy that was checked.
    have same : topology.kinds = kinds := by rw [Topology.eq_of_built drafted]
    rw [Topology.ofDeclarations_expand, same]
    exact drafted

/-- A pipeline that comes back to a node, which has routes of its own as well, and kinds with a
parent and without one. -/
def circling : Configuration where
  run := .default
  kinds := [⟨"stuck", some "slow"⟩, ⟨"slow", none⟩]
  producers := [⟨"in", none, none, []⟩]
  nodes := [⟨"check", .step, none, true, false, []⟩, ⟨"mend", .step, none, true, false, []⟩,
    ⟨"out", .sink, none, true, false, []⟩]
  pipeline := ["in", "check", "mend", "check", "out"]
  routes := RouteTable.empty.put "check"
    ⟨["mend"], [], [⟨"slow", ["out"]⟩, ⟨"connection", ["mend"]⟩, ⟨"error", ["mend", "out"]⟩]⟩
  defaultErrors := ["out"]

/-- The node is followed twice, and then there is its own route. A kind is led where the kind above
it is, and then where the root is. -/
theorem topology_expands_circling :
    ∃ topology, circling.topology = .ok topology ∧
      topology.outputOf "check" = ["mend", "out", "mend"] ∧
      topology.errorOf "check" ⟨"stuck"⟩ = ["out", "mend"] ∧
      circling.Routed topology ∧
      ∃ other, circling.spelledOut.topology = .ok other ∧ topology.Agrees other := by
  -- The topology is computed, and the theorem compares it with what the configuration says.
  have built : circling.topology = .ok _ := rfl
  obtain ⟨routed, respelled, -⟩ := topology_expands built
  exact ⟨_, built, by decide, by decide, routed, respelled⟩

end Configuration

end BatchFlow
