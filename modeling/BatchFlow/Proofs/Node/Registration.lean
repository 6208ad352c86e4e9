import BatchFlow.Proofs.Adaptor.Supervision
import BatchFlow.Proofs.Topology.Routes
import Mathlib.Data.List.Induction

/-! The map of the registered nodes and the order of their ids hold the same ids, however often a
node was replaced by another. So whoever walks through the order, forwards or backwards, comes to
every node that can be found in the map. -/

namespace BatchFlow

open Plan (Exchange)

namespace Nodes

/-- The registry that nodes were put into one after the other. -/
structure Registers (nodes : Nodes) (history : List Node) : Prop where
  /-- Each id is listed where it was registered first. -/
  order : nodes.ids = (history.map (·.id)).eraseDups
  distinct : nodes.ids.Nodup
  /-- The ids that are listed are the keys of the map. -/
  keys : ∀ id, id ∈ nodes.entries.map (·.1) ↔ id ∈ nodes.ids
  /-- Under an id, the node that was registered last is found. -/
  latest : ∀ id, nodes.get? id = history.reverse.find? (·.id == id)
  /-- For each id that is listed, the node under it is visited, and none is left out. -/
  visits : nodes.toList.map some = nodes.ids.map nodes.get?
  /-- Walking through the ids backwards visits the same nodes in reverse. -/
  backwards : nodes.ids.reverse.filterMap nodes.get? = nodes.toList.reverse
  counted : nodes.size = nodes.toList.length
  /-- The node that one more would replace is the last that was registered under its id. -/
  replaces : ∀ node, (nodes.insert node).2 = history.reverse.find? (·.id == node.id)

/-- One more node is registered in what there is. -/
theorem ofList_append_singleton (history : List Node) (node : Node) :
    ofList (history ++ [node]) = ((ofList history).insert node).1 := by
  rw [ofList, List.foldl_append]
  rfl

/-- Each id is listed once, at the place where it came up first. -/
theorem ids_ofList (history : List Node) :
    (ofList history).ids = (history.map (·.id)).eraseDups := by
  -- The induction is on the node that was registered last.
  induction history using List.reverseRecOn with
  | nil => rfl
  | append_singleton history node ih =>
    rw [ofList_append_singleton, ids_insert, ih, List.map_append, List.eraseDups_append]
    have listed : node.id ∈ (history.map (·.id)).eraseDups ↔ node.id ∈ history.map (·.id) := by
      simp
    by_cases again : node.id ∈ history.map (·.id)
    · -- A node that replaces another leaves the ids as they are.
      have nothing : [node.id].removeAll (history.map (·.id)) = [] := by
        simpa [List.removeAll] using again
      rw [if_pos (listed.mpr again), List.map_singleton, nothing]
      exact (List.append_nil _).symm
    · have alone : [node.id].removeAll (history.map (·.id)) = [node.id] := by
        simpa [List.removeAll] using again
      rw [if_neg fun known => again (listed.mp known), List.map_singleton, alone]
      rfl

/-- The last node that was registered under an id is the one that is found. -/
theorem get?_ofList (history : List Node) (id : String) :
    (ofList history).get? id = history.reverse.find? (·.id == id) := by
  induction history using List.reverseRecOn with
  | nil => rfl
  | append_singleton history node ih =>
    rw [ofList_append_singleton, get?_insert, ih, List.reverse_append, List.reverse_singleton,
      List.singleton_append]
    by_cases same : node.id = id
    · -- The one that came last is the first that is looked at.
      simp [same]
    · have miss : (node.id == id) = false := beq_eq_false_iff_ne.mpr same
      simp [same, miss]

/-- What is visited is what is found under the ids, one after the other. -/
theorem map_some_toList (nodes : Nodes) : nodes.toList.map some = nodes.ids.map nodes.get? := by
  -- A visited node is the one that is found under its own id.
  have found : ∀ node ∈ nodes.toList, some node = nodes.get? node.id :=
    fun node visited => (mem_toList_iff.mp visited).symm
  calc nodes.toList.map some
    _ = nodes.toList.map fun node => nodes.get? node.id := List.map_congr_left found
    _ = (nodes.toList.map (·.id)).map nodes.get? := (List.map_map ..).symm
    _ = nodes.ids.map nodes.get? := by rw [map_id_toList]

end Nodes

/-- What a node is told, if a question tells it to start or to stop. -/
def Call.summons? : Call → Option (Transition × String)
  | .advance (.node id) .start => some (.start, id)
  | .advance (.node id) .beginStop => some (.beginStop, id)
  | _ => none

/-- The nodes that were told to start or to stop, in order. -/
def summons (trace : List Exchange) : List (Transition × String) :=
  trace.filterMap (·.call.summons?)

/-- A plan that tells no node to start or to stop. -/
def Plan.Unsummoning {ρ : Type} (plan : Plan ρ) : Prop :=
  plan.Confined (·.summons? = none) False fun _ => True

/-- A run of such a plan tells nobody anything. -/
theorem Plan.Unsummoning.summons_eq_nil {ρ : Type} {plan : Plan ρ} {trace : List Exchange}
    {result : ρ} (silent : plan.Unsummoning) (runs : plan.Runs trace result) :
    summons trace = [] :=
  List.filterMap_eq_nil_iff.mpr (silent.runs runs).1

/-- Whoever is told in a trace of two parts is told in the one or in the other. -/
theorem summons_append (first rest : List Exchange) :
    summons (first ++ rest) = summons first ++ summons rest :=
  List.filterMap_append

namespace Node

variable {trace : List Exchange}

/-- A node that is started is told so once, whatever comes of it. -/
theorem start_summons (node : Node) {result : Except Condition Unit}
    (runs : node.start.Runs trace result) : summons trace = [(.start, node.id)] := by
  obtain ⟨moved, rest, rfl, more⟩ := Plan.runs_ask_iff.mp runs
  suffices silent : summons rest = [] from congrArg ((Transition.start, node.id) :: ·) silent
  cases moved with
  | false =>
    -- It had been started before, and nothing more is asked.
    obtain ⟨rfl, -⟩ := Plan.runs_done_iff.mp more
    rfl
  | true =>
    refine Plan.Unsummoning.summons_eq_nil ?_ more
    generalize node.isConnected = connected
    cases connected with
    | false => exact ⟨rfl, fun _ _ _ => trivial⟩
    | true =>
      -- Taking the start back is not the same as being told to stop.
      refine ⟨rfl, fun outcome _ _ => ?_⟩
      cases outcome <;> exact ⟨rfl, fun _ _ _ => trivial⟩

/-- A node that is stopped is told so once, whether or not it was started. -/
theorem stop_summons (node : Node) (runs : node.stop.Runs trace ()) :
    summons trace = [(.beginStop, node.id)] := by
  obtain ⟨moved, rest, rfl, more⟩ := Plan.runs_ask_iff.mp runs
  suffices silent : summons rest = [] from congrArg ((Transition.beginStop, node.id) :: ·) silent
  cases moved with
  -- It was not started, or is being stopped already.
  | false =>
    obtain ⟨rfl, -⟩ := Plan.runs_done_iff.mp more
    rfl
  | true =>
    refine Plan.Unsummoning.summons_eq_nil ?_ more
    generalize node.isConnected = connected
    cases connected with
    | false => exact ⟨rfl, fun _ _ _ => ⟨rfl, fun _ _ _ => trivial⟩⟩
    | true =>
      -- A failure to disconnect is reported, and the node stops all the same.
      refine ⟨rfl, fun outcome _ _ => ?_⟩
      cases outcome with
      | ok _ => exact ⟨rfl, fun _ _ _ => ⟨rfl, fun _ _ _ => trivial⟩⟩
      | error cause =>
        exact ⟨rfl, fun _ _ _ => ⟨rfl, fun _ _ _ => ⟨rfl, fun _ _ _ => trivial⟩⟩⟩

end Node

namespace Adaptor

variable {trace : List Exchange}

/-- Nodes that are stopped one after the other are told so in this order. -/
theorem stopEach_summons {nodes : List Node} (runs : (stopEach nodes).Runs trace ()) :
    summons trace = (nodes.map (·.id)).map (.beginStop, ·) := by
  induction nodes generalizing trace with
  | nil =>
    obtain ⟨rfl, -⟩ := Plan.runs_done_iff.mp runs
    rfl
  | cons node rest ih =>
    -- The first node is told first, whatever came of it.
    obtain ⟨_, first, last, rfl, stopped, others⟩ := Plan.runs_bind_iff.mp runs
    rw [summons_append, node.stop_summons stopped, ih others]
    rfl

/-- Nodes that are started one after the other are told so in this order, up to the one that
fails. -/
theorem startEach_summons {nodes : List Node} {result : Except (Node × Condition) Unit}
    (runs : (startEach nodes).Runs trace result) :
    match result with
    | .ok _ => summons trace = (nodes.map (·.id)).map (.start, ·)
    | .error (failed, _) => ∃ before after, nodes = before ++ failed :: after ∧
        summons trace = ((before ++ [failed]).map (·.id)).map (.start, ·) := by
  -- By induction on the nodes that are yet to be started.
  induction nodes generalizing trace with
  | nil =>
    obtain ⟨rfl, rfl⟩ := Plan.runs_done_iff.mp runs
    rfl
  | cons node rest ih =>
    obtain ⟨started, first, last, rfl, starts, others⟩ := Plan.runs_bind_iff.mp runs
    have told : summons first = [(.start, node.id)] := node.start_summons starts
    cases started with
    | error cause =>
      -- The first that fails is the last that is told.
      obtain ⟨rfl, rfl⟩ := Plan.runs_done_iff.mp others
      exact ⟨[], rest, rfl, by rw [List.append_nil, told]; rfl⟩
    -- After one that was started come the others, with their own result.
    | ok _ =>
      have further := ih others
      cases result with
      | ok _ =>
        rw [summons_append, told, further]
        rfl
      | error failed =>
        obtain ⟨before, after, rfl, tells⟩ := further
        refine ⟨node :: before, after, rfl, ?_⟩
        rw [summons_append, told, tells]
        rfl

/-- Every node that the router can apply is told to start and to stop. -/
structure Musters (adaptor : Adaptor) : Prop where
  /-- The router finds a node under exactly those ids that are listed. -/
  applied : ∀ id, (∃ node, adaptor.router.nodes.get? id = some node) ↔ id ∈ adaptor.router.nodes.ids
  ends : adaptor.startNodes.Ends ∧ adaptor.stopNodes.Ends
  /-- When all of them could be started, each was told so, in the order of registration. -/
  starts : ∀ trace, adaptor.startNodes.Runs trace (.ok ()) →
    summons trace = adaptor.router.nodes.ids.map (.start, ·)
  /-- When one could not be, those after it were not told, and all of them were told to stop. -/
  fails : ∀ trace refusal, adaptor.startNodes.Runs trace (.error refusal) →
    ∃ before failed after cause, adaptor.router.nodes.ids = before ++ failed :: after ∧
      refusal = .nodeStartFailed failed cause ∧
      summons trace = (before ++ [failed]).map (.start, ·) ++
        adaptor.router.nodes.ids.reverse.map (.beginStop, ·)
  /-- Each is told to stop, the one registered last first. -/
  stops : ∀ trace, adaptor.stopNodes.Runs trace () →
    summons trace = adaptor.router.nodes.ids.reverse.map (.beginStop, ·)

variable {adaptor : Adaptor}

/-- Stopping the nodes tells each of them to stop, the one registered last first. -/
theorem stopNodes_summons (runs : adaptor.stopNodes.Runs trace ()) :
    summons trace = adaptor.router.nodes.ids.reverse.map (.beginStop, ·) := by
  rw [stopEach_summons runs, List.map_reverse, Nodes.map_id_toList]

/-- All nodes are told to start, or else all of them are told to stop again. -/
theorem startNodes_summons {result : Except Refusal Unit}
    (runs : adaptor.startNodes.Runs trace result) :
    match result with
    | .ok _ => summons trace = adaptor.router.nodes.ids.map (.start, ·)
    | .error refusal => ∃ before failed after cause,
        adaptor.router.nodes.ids = before ++ failed :: after ∧
        refusal = .nodeStartFailed failed cause ∧
        summons trace = (before ++ [failed]).map (.start, ·) ++
          adaptor.router.nodes.ids.reverse.map (.beginStop, ·) := by
  obtain ⟨started, first, rest, rfl, starts, more⟩ := Plan.runs_bind_iff.mp runs
  have told := startEach_summons starts
  cases started with
  | ok _ =>
    obtain ⟨rfl, rfl⟩ := Plan.runs_done_iff.mp more
    show summons (first ++ []) = _
    rw [List.append_nil, told, Nodes.map_id_toList]
  | error failed =>
    obtain ⟨node, cause⟩ := failed
    obtain ⟨before, after, split, tells⟩ := told
    obtain ⟨_, stopping, last, rfl, stopped, ended⟩ := Plan.runs_bind_iff.mp more
    obtain ⟨rfl, rfl⟩ := Plan.runs_done_iff.mp ended
    -- The ids are those of the nodes that were walked through.
    have ids : adaptor.router.nodes.ids = before.map (·.id) ++ node.id :: after.map (·.id) := by
      rw [← Nodes.map_id_toList, split, List.map_append, List.map_cons]
    refine ⟨_, node.id, _, cause, ids, rfl, ?_⟩
    rw [List.append_nil, summons_append, tells, stopNodes_summons stopped, List.map_append,
      List.map_singleton]

/-- Starting and stopping the nodes of an adaptor reaches all those that its router can apply. -/
theorem musters (adaptor : Adaptor) : adaptor.Musters where
  -- Every node that can be looked up is registered, and nothing else is.
  applied id := by rw [← Option.isSome_iff_exists, Nodes.isSome_get?_iff]
  ends := ⟨adaptor.startNodes_confined.comesToAnEnd, (stopEach_confined _).comesToAnEnd⟩
  starts _ runs := startNodes_summons runs
  fails _ _ runs := startNodes_summons runs
  stops _ runs := stopNodes_summons runs

end Adaptor

namespace Nodes

/-- Whatever is registered, and however often under the same id, the map and the order of the ids
stay in step: each id is listed once, where it came first, with the node that came last. So no node
is passed over, and an adaptor starts and stops every node that its router can apply. -/
theorem ofList_registers (history : List Node) (adaptor : Adaptor) :
    (ofList history).Registers history ∧
      { adaptor with router := { adaptor.router with nodes := ofList history } }.Musters := by
  refine ⟨?_, Adaptor.musters _⟩
  -- What is visited is found by its id, and so it can be counted by the ids.
  have visits := (ofList history).map_some_toList
  exact {
    order := ids_ofList history
    distinct := (ofList history).distinct
    keys := fun id => (ofList history).inStep.mem_iff
    latest := get?_ofList history
    visits := visits
    backwards := List.filterMap_reverse
    counted := by rw [← length_ids, ← map_id_toList, List.length_map]
    replaces := fun node => get?_ofList history node.id }

/-- A node that comes again takes the place of the first one of its id. -/
example :
    let first := Node.plain "upper" .step "change_text_case"
    let again := Node.plain "upper" .step "reverse_text"
    let sink := Node.plain "out" .sink "memory"
    (ofList [first, sink, again]).toList = [again, sink] ∧
      ((ofList [first, sink]).insert again).2 = some first := ⟨rfl, rfl⟩

end Nodes

end BatchFlow
