import BatchFlow.Nodes
import BatchFlow.Topology
import Mathlib.Logic.Basic

/-! What a topology answers when it is asked where something goes, and what is registered there. -/

namespace BatchFlow

namespace Topology

/-- What is collected are the destinations from before and the new ones. -/
theorem mem_addNew {listed more : List String} {id : String} :
    id ∈ addNew listed more ↔ id ∈ listed ∨ id ∈ more := by
  -- The list grows as it is gone through, so what is listed already is generalised.
  induction more generalizing listed with
  | nil => simp [addNew]
  | cons next rest ih =>
    simp only [addNew, ih, List.mem_cons]
    split
    · -- Leaving out what is listed already loses nothing.
      rename_i known
      constructor
      · rintro (old | new)
        · exact .inl old
        · exact .inr (.inr new)
      · rintro (old | rfl | new)
        · exact .inl old
        · exact .inl known
        · exact .inr new
    · simp [or_assoc]

/-- The list stays as it is, and what is new follows it, each of the new destinations where it comes
up first. -/
theorem addNew_eq (listed more : List String) :
    addNew listed more = listed ++ (more.filter (· ∉ listed)).eraseDups := by
  induction more generalizing listed with
  | nil => simp [addNew]
  | cons next rest ih =>
    rw [addNew, ih]
    by_cases known : next ∈ listed
    · simp [known]
    · -- What has been listed in between is left out of the rest as a repetition of it.
      have twice : (rest.filter (· ∉ listed)).filter (fun other => !other == next) =
          rest.filter (· ∉ listed ++ [next]) := by
        rw [List.filter_filter]
        refine List.filter_congr fun other _ => ?_
        simp [Bool.and_comm, Bool.beq_eq_decide_eq]
      simp only [known, if_false, not_false_eq_true, decide_true, List.filter_cons_of_pos]
      rw [List.eraseDups_cons, twice, ← List.append_cons]

/-- A list without repetition gets none. -/
theorem nodup_addNew {listed more : List String} (distinct : listed.Nodup) :
    (addNew listed more).Nodup := by
  induction more generalizing listed with
  | nil => exact distinct
  | cons next rest ih =>
    rw [addNew]
    split
    · exact ih distinct
    · rename_i unknown
      -- What is put behind the others was not among them.
      have apart : ∀ id ∈ listed, ∀ other ∈ [next], id ≠ other := by
        intro id known other new
        rw [List.mem_singleton.mp new]
        exact fun same => unknown (same ▸ known)
      exact ih (List.nodup_append.mpr ⟨distinct, by simp, apart⟩)

variable {topology : Topology} {origin destination : String} {kind : Kind}

/-- Errors go to the destinations of each rule for their kind or an ancestor of it. -/
theorem mem_errorOf : destination ∈ topology.errorOf origin kind ↔
    ∃ rule ∈ topology.errorRulesOf origin, rule.kind ∈ topology.kinds.ancestors kind ∧
      destination ∈ rule.destinations := by
  simp only [errorOf, mem_addNew, List.not_mem_nil, false_or, List.mem_flatMap, List.mem_filter,
    decide_eq_true_eq, and_assoc]

/-- The rules of an origin lead nowhere if none that matches has a destination. -/
theorem errorOf_eq_nil_iff : topology.errorOf origin kind = [] ↔
    ∀ rule ∈ topology.errorRulesOf origin, rule.kind ∈ topology.kinds.ancestors kind →
      rule.destinations = [] := by
  simp only [List.eq_nil_iff_forall_not_mem, mem_errorOf]
  constructor
  · intro nowhere rule listed suits destination reached
    exact nowhere destination ⟨rule, listed, suits, reached⟩
  · rintro nowhere destination ⟨rule, listed, suits, reached⟩
    exact nowhere rule listed suits destination reached

/-- Errors go nowhere if no rule takes them, and the default destinations do not either. -/
theorem errorDestinations_eq_nil_iff : topology.errorDestinations origin kind = [] ↔
    (∀ rule ∈ topology.errorRulesOf origin, rule.kind ∈ topology.kinds.ancestors kind →
      rule.destinations = []) ∧
    (topology.defaultErrors = [] ∨ origin ∈ topology.defaultErrors) := by
  -- The default destinations come into question only if no rule leads anywhere.
  rw [← errorOf_eq_nil_iff, errorDestinations]
  cases routed : topology.errorOf origin kind with
  | nil =>
    by_cases own : origin ∈ topology.defaultErrors <;> simp [own]
  | cons first rest => simp

/-- Wherever errors go, a rule of the origin says so, or the origin falls back on the default
destinations without being one of them. -/
theorem of_mem_errorDestinations (reached : destination ∈ topology.errorDestinations origin kind) :
    (∃ rule ∈ topology.errorRulesOf origin, destination ∈ rule.destinations) ∨
      origin ∉ topology.defaultErrors ∧ destination ∈ topology.defaultErrors := by
  unfold errorDestinations at reached
  dsimp only at reached
  -- The default destinations are asked for only where no rule leads anywhere.
  split at reached
  · obtain ⟨rule, listed, _, reached⟩ := mem_errorOf.mp reached
    exact .inl ⟨rule, listed, reached⟩
  · split at reached
    · cases reached
    · rename_i other
      exact .inr ⟨other, reached⟩

end Topology

namespace Nodes

variable {nodes : Nodes} {id : String} {node : Node}

/-- A node that is found under an id has that id. -/
theorem id_of_get? (found : nodes.get? id = some node) : node.id = id := by
  obtain ⟨entry, located, rfl⟩ := Option.map_eq_some_iff.mp found
  have key : entry.1 = id := by simpa using List.find?_some located
  rw [nodes.named entry (List.mem_of_find?_eq_some located), key]

/-- There is a node under an id if and only if the id is listed. -/
theorem isSome_get?_iff : (nodes.get? id).isSome ↔ id ∈ nodes.ids := by
  rw [get?, isSome_lookup?_iff, nodes.inStep.mem_iff]

/-- Something is found under every id of the registered nodes. -/
theorem get?_of_mem (member : id ∈ nodes.ids) :
    ∃ node, nodes.get? id = some node ∧ node.id = id := by
  obtain ⟨node, found⟩ := Option.isSome_iff_exists.mp (isSome_get?_iff.mpr member)
  exact ⟨node, found, id_of_get? found⟩

/-- A node is visited if and only if it is the one that is found under its id. -/
theorem mem_toList_iff : node ∈ nodes.toList ↔ nodes.get? node.id = some node := by
  rw [toList, List.mem_filterMap]
  constructor
  · rintro ⟨id, -, found⟩
    exact id_of_get? found ▸ found
  · intro found
    have listed : node.id ∈ nodes.ids := isSome_get?_iff.mp (Option.isSome_of_mem found)
    exact ⟨node.id, listed, found⟩

/-- A node that is found is registered. -/
theorem mem_of_get? (found : nodes.get? id = some node) : node ∈ nodes.toList :=
  mem_toList_iff.mpr (id_of_get? found ▸ found)

/-- No id is passed over: the nodes that are visited have the ids that are listed, in that order. -/
theorem map_id_toList (nodes : Nodes) : nodes.toList.map (·.id) = nodes.ids := by
  -- Any part of the list of ids can be walked through, since each of them has a node of its own.
  have walked : ∀ ids : List String, (∀ id ∈ ids, id ∈ nodes.ids) →
      (ids.filterMap nodes.get?).map (·.id) = ids := by
    intro ids listed
    induction ids with
    | nil => rfl
    | cons id rest ih =>
      obtain ⟨first, others⟩ := List.forall_mem_cons.mp listed
      obtain ⟨node, found, same⟩ := get?_of_mem first
      rw [List.filterMap_cons_some found, List.map_cons, ih others, same]
  exact walked nodes.ids fun _ listed => listed

/-- As many nodes are counted as there are ids. -/
theorem length_ids (nodes : Nodes) : nodes.ids.length = nodes.size := by
  rw [size, ← nodes.inStep.length_eq, List.length_map]

end Nodes

end BatchFlow
