import BatchFlow.Proofs.Kinds.Ancestry
import BatchFlow.Proofs.Router.Wiring
import Mathlib.Data.List.Dedup
import Mathlib.Data.List.Perm.Basic

/-! What is wrong with a topology, read off its declarations one by one. Routes that leave the same
origin are gathered from wherever they were declared, so a draft says the same in another order:
exactly what is wrong with the declarations is reported, each violation once. -/

namespace BatchFlow

/-- A destination that some declaration names, with where the way to it begins. -/
structure Lead where
  origin : String
  channel : String
  destination : String

/-- The destinations that the routes of an origin name. -/
def Routes.leads (origin : String) (routes : Routes) : List Lead :=
  routes.output.map (⟨origin, "output", ·⟩) ++ routes.discard.map (⟨origin, "discard", ·⟩) ++
    routes.errors.flatMap fun rule => rule.destinations.map (⟨origin, "errors", ·⟩)

/-- The error rules among the routes of an origin. -/
def Routes.rules (origin : String) (routes : Routes) : List (String × ErrorRule) :=
  routes.errors.map (origin, ·)

namespace Declaration

/-- The ids of a list that have a next one, with that. -/
def links (ids : List String) : List (String × String) :=
  ids.zip ids.tail

/-- The origins that a declaration mentions, even if it names no destination for them. -/
def origins : Declaration → List String
  | .output origin _ | .discard origin _ | .error origin _ => [origin]
  | .pipeline ids => (links ids).map (·.1)
  | _ => []

/-- The destinations that a declaration names. -/
def leads : Declaration → List Lead
  | .output origin destinations => destinations.map (⟨origin, "output", ·⟩)
  | .discard origin destinations => destinations.map (⟨origin, "discard", ·⟩)
  | .error origin rule => rule.destinations.map (⟨origin, "errors", ·⟩)
  | .pipeline ids => (links ids).map fun link => ⟨link.1, "output", link.2⟩
  | .defaultErrors destinations => destinations.map (⟨"<adaptor>", "default errors", ·⟩)
  | _ => []

/-- The error rules that a declaration lays down. -/
def rules : Declaration → List (String × ErrorRule)
  | .error origin rule => [(origin, rule)]
  | _ => []

/-- A declaration without the shorthand for pipelines. -/
def expand : Declaration → List Declaration
  | .pipeline ids => (links ids).map fun link => .output link.1 [link.2]
  | declaration => [declaration]

/-- The ids of all producers. -/
def producerIds (declarations : List Declaration) : List String :=
  declarations.filterMap producer?

/-- The ids of all nodes. -/
def nodeIds (declarations : List Declaration) : List String :=
  declarations.filterMap node?

end Declaration

open Declaration (producerIds nodeIds)

/-- The elements of a list that have occurred before, once for each time that they occur again. -/
def repeats {α : Type} [DecidableEq α] (elements : List α) : List α :=
  (elements.zipIdx.filter fun (element, place) => element ∈ elements.take place).map (·.1)

/-- Whether the last element is a repetition is seen from all the others. -/
theorem repeats_append_singleton {α : Type} [DecidableEq α] (elements : List α) (last : α) :
    repeats (elements ++ [last]) = repeats elements ++ if last ∈ elements then [last] else [] := by
  -- What stands before an earlier element is the same with the last one and without it.
  have same : elements.zipIdx.filter (fun (entry : α × Nat) =>
        entry.1 ∈ (elements ++ [last]).take entry.2) =
      elements.zipIdx.filter fun (entry : α × Nat) => entry.1 ∈ elements.take entry.2 := by
    refine List.filter_congr fun entry member => ?_
    have within : entry.2 < elements.length := by simpa using (List.mem_zipIdx member).2.1
    rw [List.take_append_of_le_length within.le]
  simp only [repeats, List.zipIdx_append, List.filter_append, List.map_append]
  rw [same]
  congr 1
  by_cases again : last ∈ elements <;> simp [again]

/-- Nothing is repeated in a list without duplicates, and only there. -/
theorem repeats_eq_nil_iff {α : Type} [DecidableEq α] {elements : List α} :
    repeats elements = [] ↔ elements.Nodup := by
  induction elements using List.reverseRecOn with
  | nil => simp [repeats]
  -- Only the last element is new, and it repeats one of the others or none.
  | append_singleton elements last ih =>
    rw [repeats_append_singleton, List.append_eq_nil_iff, ih, ← List.concat_eq_append,
      List.nodup_concat]
    by_cases again : last ∈ elements <;> simp [again]

/-- What is picked from a list by a test and what is made of each are the same in one go. -/
theorem flatMap_ite_singleton {α β : Type} {test : α → Prop} [DecidablePred test] {make : α → β}
    (elements : List α) :
    (elements.flatMap fun element => if test element then [make element] else []) =
      (elements.filter test).map make := by
  -- By induction on the list; the test decides whether an element is in the front of either side.
  induction elements with
  | nil => rfl
  | cons first rest ih =>
    rw [List.flatMap_cons, ih]
    by_cases picked : test first <;> simp [picked]

namespace Topology

/-- Nothing is wrong with the declarations of a topology. -/
structure WellFormed (kinds : Kinds) (declarations : List Declaration) : Prop where
  distinct : (producerIds declarations ++ nodeIds declarations).Nodup
  known : ∀ origin ∈ declarations.flatMap (·.origins),
    origin ∈ producerIds declarations ∨ origin ∈ nodeIds declarations
  resolved : ∀ lead ∈ declarations.flatMap (·.leads),
    lead.destination ∈ nodeIds declarations ∧ lead.destination ∉ producerIds declarations
  registered : ∀ rule ∈ declarations.flatMap (·.rules), rule.2.kind ∈ kinds.all

/-- Everything that is wrong with the declarations of a topology, one sort after the other. -/
def violations (kinds : Kinds) (declarations : List Declaration) : List Defect :=
  let producers := producerIds declarations
  let nodes := nodeIds declarations
  (repeats (producers ++ nodes)).map .duplicateId ++
    ((declarations.flatMap (·.origins)).dedup.filter fun origin =>
      origin ∉ producers ∧ origin ∉ nodes).map .unknownOrigin ++
    ((declarations.flatMap (·.leads)).filter (·.destination ∈ producers)).map (fun lead =>
      .producerDestination lead.origin lead.destination) ++
    ((declarations.flatMap (·.leads)).filter fun lead =>
      lead.destination ∉ producers ∧ lead.destination ∉ nodes).map (fun lead =>
      .unresolvedDestination lead.origin lead.channel lead.destination) ++
    ((declarations.flatMap (·.rules)).filter (·.2.kind ∉ kinds.all)).map fun rule =>
      .unknownKind rule.1 rule.2.kind.name

end Topology

namespace Draft

variable {draft : Draft}

/-- The destinations that a draft names. -/
def leads (draft : Draft) : List Lead :=
  draft.routes.flatMap (fun entry => entry.2.leads entry.1) ++
    draft.defaultErrors.map (⟨"<adaptor>", "default errors", ·⟩)

/-- The error rules of a draft. -/
def rules (draft : Draft) : List (String × ErrorRule) :=
  draft.routes.flatMap fun entry => entry.2.rules entry.1

/-- The origins that a draft mentions. -/
def origins (draft : Draft) : List String :=
  draft.routes.map (·.1)

section Gathering

variable {α : Type} {change : Routes → Routes} {origin : String}
  {routes : List (String × Routes)}

/-- What is read off the routes of all origins grows by what a change adds to those of one. -/
theorem flatMap_updateRoutes (content : String → Routes → List α) {extra : List α}
    (empty : content origin .none = [])
    (grows : ∀ routes, (content origin (change routes)).Perm (content origin routes ++ extra)) :
    ((updateRoutes change origin routes).flatMap fun entry => content entry.1 entry.2).Perm
      (routes.flatMap (fun entry => content entry.1 entry.2) ++ extra) := by
  induction routes with
  | nil => simpa [updateRoutes, empty] using grows .none
  | cons entry rest ih =>
    obtain ⟨id, own⟩ := entry
    rw [updateRoutes]
    split
    · rename_i same
      subst same
      -- What the change adds is moved behind everything else.
      simp only [List.flatMap_cons, List.append_assoc]
      refine ((grows own).append_right _).trans ?_
      rw [List.append_assoc]
      exact List.perm_append_comm.append_left _
    · -- Another origin stands in front, and the change is made further behind.
      simp only [List.flatMap_cons, List.append_assoc]
      exact ih.append_left _

/-- An origin whose routes are changed is mentioned, behind the others if it was not before. -/
theorem map_fst_updateRoutes : (updateRoutes change origin routes).map (·.1) =
    if origin ∈ routes.map (·.1) then routes.map (·.1) else routes.map (·.1) ++ [origin] := by
  induction routes with
  | nil => simp [updateRoutes]
  | cons entry rest ih =>
    obtain ⟨id, own⟩ := entry
    rw [updateRoutes]
    by_cases same : id = origin
    · simp [same]
    · -- The origin is mentioned further behind, or put at the end.
      simp only [if_neg same, List.map_cons, ih, List.mem_cons, Ne.symm same, false_or]
      split <;> simp

end Gathering

/-- A pipeline is so many output routes. -/
theorem declare_eq_foldl_expand (declaration : Declaration) :
    draft.declare declaration = declaration.expand.foldl declare draft := by
  cases declaration with
  | pipeline ids =>
    show draft.chain ids = _
    -- The induction follows the chain, which looks at two ids at a time.
    fun_induction draft.chain ids with
    | case1 draft first second rest ih => exact ih
    | case2 ids draft short =>
      rcases ids with _ | ⟨first, _ | ⟨second, rest⟩⟩
      · rfl
      · rfl
      · exact absurd rfl (short first second rest)
  | _ => rfl

/-- A draft says what some declarations say, with one entry for each origin. -/
structure Gathers (draft : Draft) (said : List Declaration) : Prop where
  leads : draft.leads.Perm (said.flatMap (·.leads))
  rules : draft.rules.Perm (said.flatMap (·.rules))
  origins : ∀ origin, origin ∈ draft.origins ↔ origin ∈ said.flatMap (·.origins)
  distinct : draft.origins.Nodup

variable {said : List Declaration} {declaration : Declaration}

/-- A change to the routes of an origin is gathered, if the declaration adds to them what it
says. -/
theorem Gathers.update {change : Routes → Routes} {origin : String} (gathers : draft.Gathers said)
    (mentions : declaration.origins = [origin])
    (leads : ∀ routes : Routes,
      ((change routes).leads origin).Perm (routes.leads origin ++ declaration.leads))
    (rules : ∀ routes : Routes,
      ((change routes).rules origin).Perm (routes.rules origin ++ declaration.rules)) :
    ({ draft with routes := updateRoutes change origin draft.routes }).Gathers
      (said ++ [declaration]) where
  leads := by
    rw [List.flatMap_append, List.flatMap_singleton]
    refine .trans ?_ (gathers.leads.append_right _)
    unfold Draft.leads
    refine ((flatMap_updateRoutes (fun id routes => routes.leads id) rfl
      leads).append_right _).trans ?_
    -- The default destinations stay behind the others.
    simp only [List.append_assoc]
    exact List.perm_append_comm.append_left _
  -- With rules there is nothing that stays behind.
  rules := by
    rw [List.flatMap_append, List.flatMap_singleton]
    exact (flatMap_updateRoutes (fun id routes => routes.rules id) rfl rules).trans
      (gathers.rules.append_right _)
  origins other := by
    rw [List.flatMap_append, List.flatMap_singleton, mentions, List.mem_append, ← gathers.origins,
      List.mem_singleton]
    show other ∈ (updateRoutes change origin draft.routes).map (·.1) ↔ _
    rw [map_fst_updateRoutes]
    -- An origin that is mentioned again is no new one.
    split
    · rename_i mentioned
      exact ⟨.inl, fun either => either.elim id fun same => same ▸ mentioned⟩
    · -- A new one comes last, as it does in the list of all that was said.
      rw [List.mem_append, List.mem_singleton]
      rfl
  distinct := by
    show ((updateRoutes change origin draft.routes).map (·.1)).Nodup
    rw [map_fst_updateRoutes]
    -- No origin is entered twice.
    split
    · exact gathers.distinct
    · rename_i unmentioned
      rw [← List.concat_eq_append]
      exact gathers.distinct.concat unmentioned

/-- The same may be said in other declarations. -/
theorem Gathers.reworded {others : List Declaration} (gathers : draft.Gathers said)
    (leads : others.flatMap (·.leads) = said.flatMap (·.leads))
    (rules : others.flatMap (·.rules) = said.flatMap (·.rules))
    (origins : others.flatMap (·.origins) = said.flatMap (·.origins)) : draft.Gathers others where
  leads := leads ▸ gathers.leads
  rules := rules ▸ gathers.rules
  origins := origins ▸ gathers.origins
  distinct := gathers.distinct

/-- A declaration that is no pipeline is gathered. -/
theorem Gathers.plain (gathers : draft.Gathers said)
    (plain : ∀ ids, declaration ≠ .pipeline ids) :
    (draft.declare declaration).Gathers (said ++ [declaration]) := by
  cases declaration with
  | producer | node =>
    -- The routes stay as they are, and nothing was said of them.
    have same : ∀ producers nodes, { draft with producers, nodes }.Gathers said := fun _ _ =>
      ⟨gathers.leads, gathers.rules, gathers.origins, gathers.distinct⟩
    refine (same _ _).reworded ?_ ?_ ?_ <;>
    · rw [List.flatMap_append, List.flatMap_singleton]
      exact List.append_nil _
  | output origin destinations =>
    -- The new destinations go in front of those of discards and rules, which stay in their order.
    refine gathers.update rfl (fun routes => ?_) (fun routes => ?_)
    · simp only [Routes.leads, Declaration.leads, List.map_append, List.append_assoc]
      exact (List.perm_append_comm.trans (.of_eq (List.append_assoc ..))).append_left _
    · simp [Routes.rules, Declaration.rules]
  | discard origin destinations =>
    refine gathers.update rfl (fun routes => ?_) (fun routes => ?_)
    · simp only [Routes.leads, Declaration.leads, List.map_append, List.append_assoc]
      exact (List.perm_append_comm.append_left _).append_left _
    · simp [Routes.rules, Declaration.rules]
  | error origin rule =>
    refine gathers.update rfl (fun routes => ?_) (fun routes => ?_)
    · simp [Routes.leads, Declaration.leads]
    · simp [Routes.rules, Declaration.rules]
  | pipeline ids => exact absurd rfl (plain ids)
  | defaultErrors destinations =>
    refine ⟨?_, ?_, ?_, gathers.distinct⟩
    · rw [List.flatMap_append, List.flatMap_singleton]
      refine .trans (.of_eq ?_) (gathers.leads.append_right _)
      simp [Draft.leads, declare, Declaration.leads]
    -- Nothing is said of rules or of origins.
    · rw [List.flatMap_append, List.flatMap_singleton]
      exact gathers.rules.trans (.of_eq (List.append_nil _).symm)
    · rw [List.flatMap_append, List.flatMap_singleton]
      exact fun origin => (gathers.origins origin).trans (by simp [Declaration.origins])

/-- Declarations of which none is a pipeline are gathered one after the other. -/
theorem Gathers.foldl {declarations : List Declaration} (gathers : draft.Gathers said)
    (plain : ∀ declaration ∈ declarations, ∀ ids, declaration ≠ .pipeline ids) :
    (declarations.foldl declare draft).Gathers (said ++ declarations) := by
  -- By induction on the declarations, each of which is put after what was said before.
  induction declarations generalizing draft said with
  | nil => simpa using gathers
  | cons first rest ih =>
    obtain ⟨here, later⟩ := List.forall_mem_cons.mp plain
    rw [← List.singleton_append, ← List.append_assoc]
    exact ih (gathers.plain here) later

/-- Every declaration is gathered, a pipeline as the output routes that it stands for. -/
theorem Gathers.declare (gathers : draft.Gathers said) :
    (draft.declare declaration).Gathers (said ++ [declaration]) := by
  cases declaration with
  | pipeline ids =>
    rw [declare_eq_foldl_expand]
    refine (gathers.foldl ?_).reworded ?_ ?_ ?_
    · simp only [Declaration.expand, List.forall_mem_map]
      exact fun _ _ _ => nofun
    -- What is said of each link is said once.
    all_goals
      simp only [List.flatMap_append, List.flatMap_singleton, Declaration.expand, List.flatMap_map]
      congr 1
    · exact List.map_eq_flatMap
    · exact (List.flatMap_eq_nil_iff.mpr fun _ _ => rfl).symm
    · exact List.map_eq_flatMap
  | _ => exact gathers.plain nofun

/-- The draft of some declarations says what they say. -/
theorem gathers_ofDeclarations (declarations : List Declaration) :
    (ofDeclarations declarations).Gathers declarations := by
  -- By induction from the end, since the last declaration is added last.
  induction declarations using List.reverseRecOn with
  | nil => exact ⟨.nil, .nil, by simp [ofDeclarations, empty, origins], List.nodup_nil⟩
  | append_singleton earlier last ih =>
    rw [ofDeclarations, List.foldl_append]
    exact ih.declare

/-- An id at the end is reported if it has been seen or occurs before. -/
theorem duplicates_append_singleton (seen ids : List String) (last : String) :
    duplicates seen (ids ++ [last]) = duplicates seen ids ++
      if last ∈ seen ∨ last ∈ ids then [.duplicateId last] else [] := by
  induction ids generalizing seen with
  | nil => simp [duplicates]
  | cons id rest ih =>
    rw [List.cons_append, duplicates, duplicates]
    split
    · rename_i again
      -- An id that has been seen does not have to be seen twice.
      have same : last ∈ seen ∨ last ∈ id :: rest ↔ last ∈ seen ∨ last ∈ rest := by
        rw [List.mem_cons]
        constructor
        · rintro (seen | rfl | later)
          · exact .inl seen
          · exact .inl again
          · exact .inr later
        · exact Or.imp_right .inr
      simp only [ih, same, List.cons_append]
    · simp only [ih, List.mem_cons, or_left_comm, or_assoc]

/-- Ids are reported each time that they occur again. -/
theorem duplicates_eq (ids : List String) :
    duplicates [] ids = (repeats ids).map .duplicateId := by
  induction ids using List.reverseRecOn with
  | nil => rfl
  | append_singleton ids last ih =>
    rw [duplicates_append_singleton, ih, repeats_append_singleton, List.map_append]
    by_cases again : last ∈ ids <;> simp [again]

/-- What is wrong with a destination depends on whether it is a producer's, or nobody's. -/
theorem checkDestination_eq {origin channel destination : String} :
    draft.checkDestination origin channel destination =
      (if destination ∈ draft.producers then [.producerDestination origin destination] else []) ++
        if destination ∉ draft.producers ∧ destination ∉ draft.nodes then
          [.unresolvedDestination origin channel destination] else [] := by
  unfold checkDestination
  by_cases producer : destination ∈ draft.producers <;>
    by_cases node : destination ∈ draft.nodes <;> simp [producer, node]

/-- What is wrong with a rule: its kind may not be registered, and then there are its
destinations. -/
theorem checkRule_eq {kinds : Kinds} {origin : String} {rule : ErrorRule} :
    draft.checkRule kinds origin rule =
      (if rule.kind ∉ kinds.all then [.unknownKind origin rule.kind.name] else []) ++
        rule.destinations.flatMap (draft.checkDestination origin "errors") := by
  unfold checkRule
  by_cases registered : rule.kind ∈ kinds.all <;>
    simp [registered, Kinds.contains_iff.mpr, mt Kinds.contains_iff.mp]

/-- What is wrong with the routes of an origin: with the origin itself, with the destinations that
they name, and with the kinds of their rules. -/
theorem checkRoutes_perm {kinds : Kinds} {origin : String} {routes : Routes} :
    (draft.checkRoutes kinds origin routes).Perm
      ((if origin ∉ draft.producers ∧ origin ∉ draft.nodes then [.unknownOrigin origin] else []) ++
        ((routes.leads origin).flatMap (fun lead =>
          draft.checkDestination lead.origin lead.channel lead.destination) ++
        (routes.rules origin).flatMap fun rule =>
          if rule.2.kind ∉ kinds.all then [.unknownKind rule.1 rule.2.kind.name] else [])) := by
  have unknown : (if origin ∈ draft.producers ∨ origin ∈ draft.nodes then []
      else [Defect.unknownOrigin origin]) =
      if origin ∉ draft.producers ∧ origin ∉ draft.nodes then [.unknownOrigin origin] else [] := by
    by_cases producer : origin ∈ draft.producers <;>
      by_cases node : origin ∈ draft.nodes <;> simp [producer, node]
  -- The kind of a rule and its destinations are checked in turn, rule by rule.
  have ruled : (routes.errors.flatMap (draft.checkRule kinds origin)).Perm
      (routes.errors.flatMap (fun rule => rule.destinations.flatMap
        (draft.checkDestination origin "errors")) ++
        routes.errors.flatMap fun rule =>
          if rule.kind ∉ kinds.all then [.unknownKind origin rule.kind.name] else []) := by
    rw [show draft.checkRule kinds origin = _ from funext fun _ => checkRule_eq]
    exact (List.flatMap_append_perm ..).symm.trans List.perm_append_comm
  unfold checkRoutes
  rw [unknown]
  simp only [Routes.leads, Routes.rules, List.flatMap_append, List.flatMap_map, List.flatMap_assoc,
    List.append_assoc]
  exact ((ruled.append_left _).append_left _).append_left _

/-- Entry by entry, three sorts of defects are taken apart. -/
theorem checkEach_perm (draft : Draft) (kinds : Kinds) :
    (draft.routes.flatMap fun entry => draft.checkRoutes kinds entry.1 entry.2).Perm
      ((draft.origins.flatMap fun origin =>
          if origin ∉ draft.producers ∧ origin ∉ draft.nodes then [.unknownOrigin origin]
          else []) ++
        ((draft.routes.flatMap (fun entry => entry.2.leads entry.1)).flatMap (fun lead =>
          draft.checkDestination lead.origin lead.channel lead.destination) ++
        draft.rules.flatMap fun rule =>
          if rule.2.kind ∉ kinds.all then [.unknownKind rule.1 rule.2.kind.name] else [])) := by
  -- Three sorts of defects are reported for each entry, which are now put together by sort.
  refine (List.Perm.flatMap_left _ fun entry _ => checkRoutes_perm).trans ?_
  refine (List.flatMap_append_perm ..).symm.trans (.append (.of_eq ?_) ?_)
  · rw [origins, List.flatMap_map]
  · refine (List.flatMap_append_perm ..).symm.trans (.of_eq ?_)
    rw [List.flatMap_assoc, rules, List.flatMap_assoc]

namespace Gathers

variable (gathers : draft.Gathers said)
include gathers

/-- Every destination that is said is checked, wherever the draft has it. -/
theorem destinations_perm :
    (draft.leads.flatMap fun lead =>
        draft.checkDestination lead.origin lead.channel lead.destination).Perm
      (((said.flatMap (·.leads)).filter (·.destination ∈ draft.producers)).map (fun lead =>
          .producerDestination lead.origin lead.destination) ++
        ((said.flatMap (·.leads)).filter fun lead =>
          lead.destination ∉ draft.producers ∧ lead.destination ∉ draft.nodes).map fun lead =>
          .unresolvedDestination lead.origin lead.channel lead.destination) := by
  refine (gathers.leads.flatMap_right _).trans ?_
  simp only [checkDestination_eq]
  refine (List.flatMap_append_perm ..).symm.trans (.of_eq ?_)
  rw [flatMap_ite_singleton, flatMap_ite_singleton]

/-- Each origin has one entry, however often it is mentioned. -/
theorem origins_perm :
    (draft.origins.flatMap fun origin =>
        if origin ∉ draft.producers ∧ origin ∉ draft.nodes then [Defect.unknownOrigin origin]
        else []).Perm
      (((said.flatMap (·.origins)).dedup.filter fun origin =>
        origin ∉ draft.producers ∧ origin ∉ draft.nodes).map .unknownOrigin) := by
  -- Neither list has anything twice, and both have the same origins.
  have once : draft.origins.Perm (said.flatMap (·.origins)).dedup := by
    refine (List.perm_ext_iff_of_nodup gathers.distinct (List.nodup_dedup _)).mpr fun origin => ?_
    rw [gathers.origins, List.mem_dedup]
  rw [flatMap_ite_singleton]
  exact (once.filter _).map _

/-- Every rule that is said has its kind checked. -/
theorem rules_perm (kinds : Kinds) :
    (draft.rules.flatMap fun rule =>
        if rule.2.kind ∉ kinds.all then [Defect.unknownKind rule.1 rule.2.kind.name] else []).Perm
      (((said.flatMap (·.rules)).filter (·.2.kind ∉ kinds.all)).map fun rule =>
        .unknownKind rule.1 rule.2.kind.name) := by
  rw [flatMap_ite_singleton]
  exact (gathers.rules.filter _).map _

/-- What is wrong with a draft that says what some declarations say is what is wrong with these. -/
theorem defects_perm (kinds : Kinds) (producers : draft.producers = producerIds said)
    (nodes : draft.nodes = nodeIds said) :
    (draft.defects kinds).Perm (Topology.violations kinds said) := by
  have led := gathers.destinations_perm
  rw [Draft.leads, List.flatMap_append, List.flatMap_map] at led
  unfold defects Topology.violations
  rw [duplicates_eq, ← producers, ← nodes]
  simp only [List.append_assoc]
  refine .append_left _ (((draft.checkEach_perm kinds).append_right _).trans ?_)
  -- The default destinations are checked behind all else, and belong to the other ones.
  simp only [List.append_assoc]
  refine gathers.origins_perm.append
    (((List.perm_append_comm.append_left _).trans (.of_eq ?_)).trans
      ((led.append (gathers.rules_perm kinds)).trans (.of_eq ?_)))
  · rw [← List.append_assoc]
  · simp only [List.append_assoc]

end Gathers

end Draft

namespace Topology

variable {kinds : Kinds} {declarations : List Declaration}

/-- There is nothing to report if and only if nothing is wrong. -/
theorem violations_eq_nil_iff :
    violations kinds declarations = [] ↔ WellFormed kinds declarations := by
  simp only [violations, List.append_eq_nil_iff, List.map_eq_nil_iff, List.filter_eq_nil_iff,
    repeats_eq_nil_iff, List.mem_dedup, decide_eq_true_eq, not_and, not_not]
  constructor
  · rintro ⟨⟨⟨⟨distinct, known⟩, apart⟩, resolved⟩, registered⟩
    refine ⟨distinct, fun origin mentioned => ?_, fun lead named => ?_, registered⟩
    · exact or_iff_not_imp_left.mpr (known origin mentioned)
    · exact ⟨resolved lead named (apart lead named), apart lead named⟩
  · rintro ⟨distinct, known, resolved, registered⟩
    exact ⟨⟨⟨⟨distinct, fun origin mentioned => or_iff_not_imp_left.mp (known origin mentioned)⟩,
      fun lead named => (resolved lead named).2⟩, fun lead named _ => (resolved lead named).1⟩,
      registered⟩

/-- The declarations of a topology are judged exactly: one comes of them if and only if nothing is
wrong with them, and otherwise each violation is reported once. -/
theorem ofDeclarations_validated (kinds : Kinds) (declarations : List Declaration) :
    ((∃ topology, ofDeclarations kinds declarations = .ok topology) ↔
      WellFormed kinds declarations) ∧
    (¬ WellFormed kinds declarations → ∃ defects,
      ofDeclarations kinds declarations = .error defects ∧
      defects.Perm (violations kinds declarations)) := by
  obtain ⟨nodes, producers⟩ := Draft.foldl_declare_introduces .empty declarations
  have perm := (Draft.gathers_ofDeclarations declarations).defects_perm kinds producers nodes
  -- Nothing is reported exactly if nothing violates a rule, whatever the order of the report.
  have flawless : (Draft.ofDeclarations declarations).defects kinds = [] ↔
      WellFormed kinds declarations := by
    rw [← violations_eq_nil_iff]
    exact ⟨fun silent => (silent ▸ perm.symm).eq_nil, fun sound => (sound ▸ perm).eq_nil⟩
  unfold ofDeclarations Draft.build
  dsimp only
  constructor
  · rw [← flawless]
    split
    · rename_i faultless
      simpa using faultless
    · rename_i faulty
      simpa using faulty
  · intro unsound
    rw [if_neg (by simpa using flawless.not.mpr unsound)]
    exact ⟨_, rfl, perm⟩

/-- No violation hides another: an id is both a producer's and a node's, a pipeline leads through an
id that is nobody's and back, and a rule has a kind and a destination that are unknown. -/
example : ofDeclarations .builtIn [.producer "in", .node "in", .pipeline ["in", "gap", "in"],
    .output "ghost" [], .error "ghost" ⟨⟨"odd"⟩, ["gap"]⟩] = .error [.duplicateId "in",
      .unresolvedDestination "in" "output" "gap", .unknownOrigin "gap",
      .producerDestination "gap" "in", .unknownOrigin "ghost", .unknownKind "ghost" "odd",
      .unresolvedDestination "ghost" "errors" "gap"] := by rfl

end Topology

end BatchFlow
