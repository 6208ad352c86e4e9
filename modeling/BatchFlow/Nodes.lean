import BatchFlow.Node

/-! The registered nodes: a map in which each is found by its id, and the ids in the order of
registration, in which the nodes are visited. -/

namespace BatchFlow

/-- The registered nodes. The map and the order are two things, which hold the same ids. -/
structure Nodes where
  /-- Each id with the node under it. Nothing depends on the order of the entries. -/
  entries : List (String × Node)
  /-- The ids, in the order in which they were first registered. -/
  ids : List String
  distinct : ids.Nodup
  inStep : (entries.map (·.1)).Perm ids
  named : ∀ entry ∈ entries, entry.2.id = entry.1

namespace Nodes

/-- No node yet. -/
def empty : Nodes := ⟨[], [], .nil, .nil, nofun⟩

/-- The node under an id of a map. -/
def lookup? (entries : List (String × Node)) (id : String) : Option Node :=
  (entries.find? (·.1 == id)).map (·.2)

/-- Sets a node under its id, in the place of the one that is there. -/
def put (node : Node) (entries : List (String × Node)) : List (String × Node) :=
  (node.id, node) :: entries.filter (·.1 != node.id)

/-- The node of an id. -/
def get? (nodes : Nodes) (id : String) : Option Node :=
  lookup? nodes.entries id

/-- Whether there is a node of an id. -/
def contains (nodes : Nodes) (id : String) : Bool :=
  (nodes.get? id).isSome

/-- The nodes in the order of registration. An id that the map lacks would be passed over. -/
def toList (nodes : Nodes) : List Node :=
  nodes.ids.filterMap nodes.get?

/-- The number of nodes. -/
def size (nodes : Nodes) : Nat := nodes.entries.length

/-- A map has a node under exactly those ids that are its keys. -/
theorem isSome_lookup?_iff {entries : List (String × Node)} {id : String} :
    (lookup? entries id).isSome ↔ id ∈ entries.map (·.1) := by
  simp [lookup?, List.find?_isSome]

/-- A node that is set is found under its id, and all others as before. -/
theorem lookup?_put (node : Node) (entries : List (String × Node)) (id : String) :
    lookup? (put node entries) id = if node.id = id then some node else lookup? entries id := by
  unfold lookup? put
  by_cases same : node.id = id
  · simp [same]
  · -- Whatever the map had under the id is out of the way.
    -- The entry that was taken out is not one that is looked for.
    have spared : (entries.filter (·.1 != node.id)).find? (·.1 == id) =
        entries.find? (·.1 == id) := by
      rw [List.find?_filter]
      congr 1
      funext entry
      by_cases found : entry.1 = id
      · have other : (id != node.id) = true := bne_iff_ne.mpr (Ne.symm same)
        simp [found, other]
      · simp [found]
    simp [same, spared]

/-- The other keys of a map stay when a node is set. -/
theorem keys_put (node : Node) (entries : List (String × Node)) :
    (put node entries).map (·.1) = node.id :: (entries.map (·.1)).filter (· != node.id) := by
  rw [put, List.map_cons, List.filter_map]
  rfl

/-- What the ids are once a node is registered: a node that replaces another keeps its place. -/
def idsWith (nodes : Nodes) (node : Node) : List String :=
  if (nodes.get? node.id).isNone then nodes.ids ++ [node.id] else nodes.ids

/-- There is no node under an id if and only if it is not among the ids. -/
theorem isNone_get?_iff {nodes : Nodes} {id : String} :
    (nodes.get? id).isNone ↔ id ∉ nodes.ids := by
  rw [← nodes.inStep.mem_iff, ← isSome_lookup?_iff, get?]
  cases lookup? nodes.entries id <;> simp

/-- No id is listed twice when a node is registered. -/
theorem distinct_idsWith (nodes : Nodes) (node : Node) : (nodes.idsWith node).Nodup := by
  unfold idsWith
  split
  · -- Only an id that is not listed yet is put behind the others.
    rename_i fresh
    have unlisted : node.id ∉ nodes.ids := isNone_get?_iff.mp fresh
    refine List.nodup_append.mpr ⟨nodes.distinct, by simp, ?_⟩
    intro id listed other last
    rw [List.mem_singleton.mp last]
    exact fun same => unlisted (same ▸ listed)
  · exact nodes.distinct

/-- The map and the order have the same ids when a node is registered. -/
theorem inStep_put (nodes : Nodes) (node : Node) :
    ((put node nodes.entries).map (·.1)).Perm (nodes.idsWith node) := by
  have keys := nodes.inStep
  rw [keys_put]
  unfold idsWith
  split
  · -- A new id is not among the keys, so none of them is taken out.
    rename_i fresh
    have unlisted : node.id ∉ nodes.entries.map (·.1) :=
      fun listed => isNone_get?_iff.mp fresh (keys.mem_iff.mp listed)
    have whole : (nodes.entries.map (·.1)).filter (· != node.id) = nodes.entries.map (·.1) :=
      List.filter_eq_self.mpr fun id listed => bne_iff_ne.mpr fun same => unlisted (same ▸ listed)
    rw [whole]
    exact (keys.cons node.id).trans (List.perm_append_singleton node.id nodes.ids).symm
  · -- The id that is taken out is the one that is put back.
    rename_i known
    have listed : node.id ∈ nodes.ids :=
      Decidable.not_not.mp fun unlisted => known (isNone_get?_iff.mpr unlisted)
    have once : (nodes.entries.map (·.1)).Nodup := keys.nodup_iff.mpr nodes.distinct
    rw [← once.erase_eq_filter]
    exact (List.perm_cons_erase (keys.mem_iff.mpr listed)).symm.trans keys

/-- Every node stands under its own id when a node is registered. -/
theorem named_put (nodes : Nodes) (node : Node) :
    ∀ entry ∈ put node nodes.entries, entry.2.id = entry.1 := by
  intro entry member
  rcases List.mem_cons.mp member with rfl | kept
  · rfl
  · exact nodes.named entry (List.mem_filter.mp kept).1

/-- Registers a node under its id, and gives back the node it replaces, whose place it takes. -/
def insert (nodes : Nodes) (node : Node) : Nodes × Option Node :=
  (⟨put node nodes.entries, nodes.idsWith node, nodes.distinct_idsWith node, nodes.inStep_put node,
    nodes.named_put node⟩, nodes.get? node.id)

/-- The nodes of a list, a later one replacing an earlier one of the same id. -/
def ofList (list : List Node) : Nodes :=
  list.foldl (fun nodes node => (nodes.insert node).1) empty

/-- Registering a node changes what is found under its own id and nothing else. -/
@[simp] theorem get?_insert (nodes : Nodes) (node : Node) (id : String) :
    (nodes.insert node).1.get? id = if node.id = id then some node else nodes.get? id :=
  lookup?_put node nodes.entries id

/-- The ids stay in the order in which they were first registered. -/
@[simp] theorem ids_insert (nodes : Nodes) (node : Node) :
    (nodes.insert node).1.ids =
      if node.id ∈ nodes.ids then nodes.ids else nodes.ids ++ [node.id] := by
  show nodes.idsWith node = _
  unfold idsWith
  by_cases known : node.id ∈ nodes.ids
  · rw [if_pos known, if_neg fun fresh => isNone_get?_iff.mp fresh known]
  · rw [if_neg known, if_pos (isNone_get?_iff.mpr known)]

/-- The diagnostic text of the nodes. -/
def inspect (nodes : Nodes) : String :=
  "NodeMap(" ++ Text.inspectList nodes.ids ++ ")"

end Nodes

end BatchFlow
