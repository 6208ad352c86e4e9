import BatchFlow.Proofs.Adaptor.Supervision
import BatchFlow.Proofs.Plan.Environment
import Mathlib.Data.List.Nodup
import Mathlib.Logic.Function.Basic

/-! The order of nodes in a run: what an adaptor does with its nodes. All of them are connected
before the first worker begins and while any is at work, and those that were connected are
disconnected in reverse, after the last producer was shut down or when one of them could not be
connected. -/

namespace BatchFlow

open Plan (Exchange)

/-- A report, or a question about the lifecycle of the adaptor itself. -/
def Call.isFormal : Call → Bool
  | .log _ | .advance .adaptor _ => true
  | _ => false

/-- What a node goes through. -/
inductive NodeMark where
  | connected (node : String)
  /-- It could not be connected, for a cause. -/
  | refused (node : String) (cause : Condition)
  | disconnected (node : String)
deriving DecidableEq

namespace NodeMark

/-- What an exchange is to a node. -/
def of? : Exchange → Option NodeMark
  | ⟨.connectNode node, .ok _⟩ => some (connected node)
  | ⟨.connectNode node, .error cause⟩ => some (refused node cause)
  | ⟨.disconnectNode node, _⟩ => some (disconnected node)
  | _ => none

/-- What the nodes went through, in order. -/
def all (trace : List Exchange) : List NodeMark := trace.filterMap of?

/-- Nodes that are connected one after the other. A step has nothing to be connected. -/
def connects (nodes : List Node) : List NodeMark :=
  (nodes.filter (·.isConnected)).map (connected ·.id)

/-- Nodes that are disconnected one after the other. -/
def disconnects (nodes : List Node) : List NodeMark :=
  (nodes.filter (·.isConnected)).map (disconnected ·.id)

/-- What the nodes went through in two parts of a trace are two parts of what they went through. -/
@[simp] theorem all_append (first rest : List Exchange) :
    all (first ++ rest) = all first ++ all rest :=
  List.filterMap_append

/-- Without nodes there is nothing to be connected, -/
@[simp] theorem connects_nil : connects [] = [] := rfl

/-- and nothing to be disconnected. -/
@[simp] theorem disconnects_nil : disconnects [] = [] := rfl

/-- Nodes are connected in the order in which they are listed, -/
@[simp] theorem connects_append (first rest : List Node) :
    connects (first ++ rest) = connects first ++ connects rest := by
  simp [connects]

/-- and disconnected in the order in which they are listed. -/
@[simp] theorem disconnects_append (first rest : List Node) :
    disconnects (first ++ rest) = disconnects first ++ disconnects rest := by
  simp [disconnects]

end NodeMark

open NodeMark (connects disconnects)

namespace Nodes

/-- Whatever nodes there are, every id is there once. -/
theorem nodup_map_id_toList (nodes : Nodes) : (nodes.toList.map (·.id)).Nodup := by
  rw [map_id_toList]
  exact nodes.distinct

end Nodes

/-- Where the components of an adaptor stand during a run, what its nodes went through, and how far
it has come with its workers. -/
structure NodeProgress where
  lifecycles : Component → Lifecycle
  marks : List NodeMark
  roll : Roll
  /-- The number of workers whose end was told. -/
  told : Nat

namespace NodeProgress

/-- A run that is about to begin. -/
def opening (lifecycles : Component → Lifecycle) : NodeProgress := ⟨lifecycles, [], .blank, 0⟩

/-- A component has moved. -/
def move (progress : NodeProgress) (component : Component) (state : Lifecycle) : NodeProgress :=
  { progress with lifecycles := Function.update progress.lifecycles component state }

/-- Nodes have moved. -/
def moveEach (progress : NodeProgress) (nodes : List Node) (state : Lifecycle) : NodeProgress :=
  { progress with lifecycles := fun component =>
      if component ∈ nodes.map (.node ·.id) then state else progress.lifecycles component }

/-- Nodes have gone through something more. -/
def mark (progress : NodeProgress) (marks : List NodeMark) : NodeProgress :=
  { progress with marks := progress.marks ++ marks }

/-- All nodes are connected and started. -/
def IsReady (adaptor : Adaptor) (progress : NodeProgress) : Prop :=
  progress.marks = connects adaptor.router.nodes.toList ∧
    ∀ node ∈ adaptor.router.nodes.toList, progress.lifecycles (.node node.id) = .started

/-- All workers have come and gone, and their producers were shut down. -/
def worked (adaptor : Adaptor) (progress : NodeProgress) : NodeProgress :=
  let keys := adaptor.sources.map (·.key)
  { progress with roll := ⟨keys, keys, keys⟩, told := adaptor.sources.length }

/-- No worker has begun, or all of them have ended and their producers were shut down. -/
def IsQuiet (adaptor : Adaptor) (progress : NodeProgress) : Prop :=
  progress.roll.begun = [] ∨
    ∀ source ∈ adaptor.sources, source.key ∈ progress.roll.ended ∧ source.key ∈ progress.roll.shut

/-- A component stands where it was moved last. -/
@[simp] theorem move_move (progress : NodeProgress) (component : Component)
    (state next : Lifecycle) :
    (progress.move component state).move component next = progress.move component next := by
  simp [move]

/-- To be moved to where it stands is no move for a component. -/
theorem move_self {progress : NodeProgress} {component : Component} {state : Lifecycle}
    (stands : progress.lifecycles component = state) :
    progress.move component state = progress := by
  subst stands
  simp [move]

/-- A move is a change of one lifecycle. -/
@[simp] theorem lifecycles_move (progress : NodeProgress) (component : Component)
    (state : Lifecycle) :
    (progress.move component state).lifecycles =
      Function.update progress.lifecycles component state := rfl

/-- What is marked comes after what was marked before. -/
@[simp] theorem marks_mark (progress : NodeProgress) (marks : List NodeMark) :
    (progress.mark marks).marks = progress.marks ++ marks := rfl

/-- A move by itself is no mark. -/
@[simp] theorem marks_moveEach (progress : NodeProgress) (nodes : List Node) (state : Lifecycle) :
    (progress.moveEach nodes state).marks = progress.marks := rfl

/-- Where no nodes are moved, nothing changes. -/
@[simp] theorem moveEach_nil (progress : NodeProgress) (state : Lifecycle) :
    progress.moveEach [] state = progress := by simp [moveEach]

/-- Several nodes are moved by moving the first one and then the others. -/
theorem moveEach_cons (progress : NodeProgress) (node : Node) (rest : List Node)
    (state : Lifecycle) :
    progress.moveEach (node :: rest) state =
      (progress.move (.node node.id) state).moveEach rest state := by
  -- Both sides have moved the same nodes, so they are compared component by component.
  unfold moveEach move
  congr 1
  funext component
  by_cases same : component = .node node.id <;> simp [same]

/-- It does not matter in which order nodes have moved. -/
theorem moveEach_reverse (progress : NodeProgress) (nodes : List Node) (state : Lifecycle) :
    progress.moveEach nodes.reverse state = progress.moveEach nodes state := by
  simp [moveEach]

/-- Of two moves of the same nodes, the later one counts. -/
@[simp] theorem moveEach_moveEach (progress : NodeProgress) (nodes : List Node)
    (state next : Lifecycle) :
    (progress.moveEach nodes state).moveEach nodes next = progress.moveEach nodes next := by
  -- A component is among the nodes or not, and so for both moves.
  unfold moveEach
  congr 1
  funext component
  by_cases moved : component ∈ nodes.map (.node ·.id) <;> simp [moved]

/-- To be moved to where they all stand is no move for nodes. -/
theorem moveEach_self {progress : NodeProgress} {nodes : List Node} {state : Lifecycle}
    (stand : ∀ node ∈ nodes, progress.lifecycles (.node node.id) = state) :
    progress.moveEach nodes state = progress := by
  unfold moveEach
  congr 1
  funext component
  split
  · -- A component that moves is one of the nodes, and stands there already.
    rename_i moved
    obtain ⟨node, member, rfl⟩ := List.mem_map.mp moved
    exact (stand node member).symm
  · rfl

/-- A node that was among those that were moved stands where they were moved to. -/
theorem moveEach_moved (progress : NodeProgress) {nodes : List Node} {node : Node}
    (member : node ∈ nodes)
    (state : Lifecycle) : (progress.moveEach nodes state).lifecycles (.node node.id) = state :=
  if_pos (List.mem_map.mpr ⟨node, member, rfl⟩)

/-- A node that has another id than those that were moved stands where it stood. -/
theorem moveEach_apart (progress : NodeProgress) {nodes : List Node} {node : Node}
    (apart : node.id ∉ nodes.map (·.id)) (state : Lifecycle) :
    (progress.moveEach nodes state).lifecycles (.node node.id) =
      progress.lifecycles (.node node.id) := by
  -- If it had moved, it would be one of them.
  refine if_neg fun moved => ?_
  obtain ⟨other, member, same⟩ := List.mem_map.mp moved
  exact apart (List.mem_map.mpr ⟨other, member, Component.node.inj same⟩)

/-- Moves and marks do not depend on each other. -/
@[simp] theorem moveEach_mark (progress : NodeProgress) (marks : List NodeMark) (nodes : List Node)
    (state : Lifecycle) :
    (progress.mark marks).moveEach nodes state = (progress.moveEach nodes state).mark marks := rfl

/-- What the workers do and what is marked of nodes does not depend on each other, -/
@[simp] theorem worked_mark (progress : NodeProgress) (marks : List NodeMark) (adaptor : Adaptor) :
    (progress.mark marks).worked adaptor = (progress.worked adaptor).mark marks := rfl

/-- nor does it depend on where a component stands, -/
@[simp] theorem worked_move (progress : NodeProgress) (component : Component) (state : Lifecycle)
    (adaptor : Adaptor) :
    (progress.move component state).worked adaptor  =
      (progress.worked adaptor).move component state := rfl

/-- or on where several nodes stand. -/
@[simp] theorem worked_moveEach (progress : NodeProgress) (nodes : List Node) (state : Lifecycle)
    (adaptor : Adaptor) :
    (progress.moveEach nodes state).worked adaptor =
      (progress.worked adaptor).moveEach nodes state := rfl

/-- To mark nothing changes nothing. -/
@[simp] theorem mark_nil (progress : NodeProgress) : progress.mark [] = progress := by simp [mark]

/-- What is marked in two parts is marked in order. -/
@[simp] theorem mark_mark (progress : NodeProgress) (first rest : List NodeMark) :
    (progress.mark first).mark rest = progress.mark (first ++ rest) := by
  simp [mark]

/-- A mark does not depend on a move of one component. -/
@[simp] theorem move_mark (progress : NodeProgress) (marks : List NodeMark) (component : Component)
    (state : Lifecycle) :
    (progress.mark marks).move component state = (progress.move component state).mark marks := rfl

end NodeProgress

namespace Adaptor

/-- Neither the adaptor nor any of its nodes is running. -/
def IsIdle (adaptor : Adaptor) (lifecycles : Component → Lifecycle) : Prop :=
  lifecycles .adaptor = .stopped ∧
    ∀ node ∈ adaptor.router.nodes.toList, lifecycles (.node node.id) = .stopped

/-- Nothing is found wrong with an adaptor that has producers, if none of its components finds
anything wrong with itself. -/
theorem defects_eq_nil_iff {adaptor : Adaptor} : adaptor.defects = [] ↔ adaptor.sources ≠ [] ∧
    (∀ source ∈ adaptor.sources, source.problems = []) ∧
    ∀ node ∈ adaptor.router.nodes.toList, node.problems = [] := by
  simp [defects, misconfigurations, List.flatMap_eq_nil_iff]

/-- What a run leaves behind of the progress that it began in. Every component stands where it
stood, and the result tells what the nodes went through: nothing, if anything was found beforehand;
a start that was taken back, if one of them could not be connected; or the whole of it. -/
def Leaves (adaptor : Adaptor) (progress : NodeProgress) :
    Except Refusal Report → NodeProgress → Prop
  | .error (.defective defects), later =>
    adaptor.defects ≠ [] ∧ defects = adaptor.defects ∧ later = progress
  | .error .alreadyRunning, _ => False
  | .error (.nodeStartFailed failed cause), later =>
    adaptor.defects = [] ∧ ∃ before node after,
      adaptor.router.nodes.toList = before ++ node :: after ∧ node.id = failed ∧
      later = progress.mark
        (connects before ++ [.refused failed cause] ++ disconnects before.reverse)
  | .ok _, later =>
    adaptor.defects = [] ∧ later = (progress.worked adaptor).mark
      (connects adaptor.router.nodes.toList ++ disconnects adaptor.router.nodes.toList.reverse)

end Adaptor

/-- How an adaptor treats its nodes: which questions it may ask at which point of a run, and how far
the answers have taken it. -/
def nodeRules (adaptor : Adaptor) : Plan.Rules NodeProgress where
  permits progress call :=
    -- Nodes are moved only while no worker is at work, and workers only while all nodes are
    -- ready.
    match call with
    | .advance (.producer _) _ => False
    | .advance (.node _) _ | .disconnectNode _ => progress.IsQuiet adaptor
    | .connectNode _ => progress.roll.begun = []
    | .spawnWorker key => progress.IsReady adaptor ∧ key ∈ adaptor.sources.map (·.key)
    | .nextExit => progress.IsReady adaptor ∧ progress.told < adaptor.sources.length ∧
        progress.roll.begun = adaptor.sources.map (·.key)
    | .collectExit key => progress.IsReady adaptor ∧ key ∈ progress.roll.begun
    | .shutdownProducer _ => progress.IsReady adaptor
    | .log _ | .clock | .advance .adaptor _ | .openRun | .isCancelled | .cancelRun => True
    | _ => False
  after? progress exchange :=
    match exchange with
    -- Whether a component has moved is told truthfully.
    | ⟨.log _, _⟩ => some progress
    | ⟨.advance component transition, moved⟩ =>
      let (state, moves) := (progress.lifecycles component).advance transition
      if moved = moves then some (progress.move component state) else none
    | ⟨.connectNode node, .ok _⟩ => some (progress.mark [.connected node])
    | ⟨.connectNode node, .error cause⟩ => some (progress.mark [.refused node cause])
    | ⟨.disconnectNode node, _⟩ => some (progress.mark [.disconnected node])
    | ⟨.nextExit, _⟩ => some { progress with told := progress.told + 1 }
    | ⟨call, _⟩ => some { progress with roll := progress.roll.after call }
  boundless := False

variable {adaptor : Adaptor} {progress later : NodeProgress}

/-- A component that stands where a transition begins is moved by it. -/
theorem moved_of_stands {component : Component} {transition : Transition} {moved : Bool}
    (led : (nodeRules adaptor).after? progress ⟨.advance component transition, moved⟩ = some later)
    (stands : progress.lifecycles component = transition.source) :
    moved = true ∧ later = progress.move component transition.target := by
  -- The rules expect the move to be answered with success.
  have advance : (progress.lifecycles component).advance transition = (transition.target, true) :=
    if_pos stands
  simp only [nodeRules, advance] at led
  obtain ⟨told, same⟩ := Option.ite_none_right_eq_some.mp led
  exact ⟨told, (Option.some.inj same).symm⟩

/-- A component that stands elsewhere is left there. -/
theorem unmoved_of_apart {component : Component} {transition : Transition} {moved : Bool}
    (led : (nodeRules adaptor).after? progress ⟨.advance component transition, moved⟩ = some later)
    (apart : progress.lifecycles component ≠ transition.source) :
    moved = false ∧ later = progress := by
  -- Such a transition is refused, and the lifecycle is written back as it was.
  have advance : (progress.lifecycles component).advance transition =
      (progress.lifecycles component, false) := if_neg apart
  simp only [nodeRules, advance] at led
  obtain ⟨told, same⟩ := Option.ite_none_right_eq_some.mp led
  exact ⟨told, (Option.some.inj same).symm.trans (NodeProgress.move_self rfl)⟩

/-- What the nodes went through, and how far the adaptor has come with its workers, is what it has
asked. -/
theorem nodeRules_after {exchange : Exchange}
    (led : (nodeRules adaptor).after? progress exchange = some later) :
    later.marks = progress.marks ++ NodeMark.all [exchange] ∧
      later.roll = progress.roll.after exchange.call ∧
      (exchange.call ≠ .nextExit → later.told = progress.told) := by
  -- Only a transition moves a component, and only a question to a node leaves a mark.
  obtain ⟨call, reply⟩ := exchange
  cases call with
  | advance component transition =>
    obtain ⟨_, same⟩ := Option.ite_none_right_eq_some.mp led
    cases same
    exact ⟨(List.append_nil _).symm, rfl, fun _ => rfl⟩
  | connectNode node =>
    cases reply <;> (cases led; exact ⟨rfl, rfl, fun _ => rfl⟩)
  | disconnectNode node =>
    cases led
    exact ⟨rfl, rfl, fun _ => rfl⟩
  | nextExit =>
    cases led
    exact ⟨(List.append_nil _).symm, rfl, fun other => absurd rfl other⟩
  | _ =>
    cases led
    exact ⟨(List.append_nil _).symm, rfl, fun _ => rfl⟩

/-- Whenever anybody is at work, all nodes are connected. -/
theorem nodeRules_orders {exchange : Exchange}
    (granted : (nodeRules adaptor).Grants progress exchange later)
    (order : progress.IsQuiet adaptor ∨ progress.IsReady adaptor) :
    later.IsQuiet adaptor ∨ later.IsReady adaptor := by
  obtain ⟨permitted, led⟩ := granted
  obtain ⟨call, reply⟩ := exchange
  cases call with
  -- A node is moved where nobody is at work, and no other component has to do with that.
  | advance component transition =>
    obtain ⟨_, same⟩ := Option.ite_none_right_eq_some.mp led
    cases same
    cases component with
    | adaptor =>
      refine order.imp_right fun ready => ⟨ready.1, fun node member => ?_⟩
      rw [NodeProgress.lifecycles_move, Function.update_of_ne (by simp)]
      exact ready.2 node member
    | node id => exact .inl permitted
    | producer key => cases permitted
  -- Nodes are connected before the first worker begins.
  | connectNode node => cases reply <;> (cases led; exact .inl (.inl permitted))
  | disconnectNode node =>
    cases led
    exact .inl permitted
  -- All that has to do with workers is permitted only where all nodes are ready.
  | spawnWorker key | nextExit | collectExit key =>
    cases led
    exact .inr permitted.1
  | shutdownProducer key =>
    cases led
    exact .inr permitted
  -- None of these questions is about nodes or workers.
  | log | clock | openRun | isCancelled | cancelRun =>
    cases led
    exact order
  | _ => cases permitted

namespace Node

/-- A node that is stopped is connected and started, or stays stopped if it cannot be connected. -/
theorem start_observes_nodeRules (node : Node)
    (stopped : progress.lifecycles (.node node.id) = .stopped) (early : progress.roll.begun = []) :
    node.start.Observes (nodeRules adaptor) (fun started later =>
      match started with
      | .ok _ => later = (progress.move (.node node.id) .started).mark (connects [node])
      | .error cause => later = progress.mark [.refused node.id cause]) progress := by
  unfold start
  refine ⟨.inl early, fun moved later led => ?_⟩
  obtain ⟨rfl, rfl⟩ := moved_of_stands led stopped
  -- Whether there is anything to be connected depends on the role of the node.
  cases connected : node.isConnected with
  | false =>
    -- There is nothing to be connected, and so nothing to be marked.
    refine ⟨trivial, fun _ later led => ?_⟩
    cases led
    show _ = NodeProgress.mark _ _
    simp [connects, connected, Transition.target]
  | true =>
    refine ⟨early, fun outcome later led => ?_⟩
    cases outcome with
    | error cause =>
      -- The start is taken back, which leaves the node where it stood.
      cases led
      refine ⟨.inl early, fun moved later led => ?_⟩
      obtain ⟨-, rfl⟩ := moved_of_stands led (Function.update_self ..)
      show _ = NodeProgress.mark _ _
      simp [Transition.target, NodeProgress.move_self stopped]
    -- It is connected, and nothing is left to be done but to report it.
    | ok _ =>
      cases led
      refine ⟨trivial, fun _ later led => ?_⟩
      cases led
      show _ = NodeProgress.mark _ _
      simp [connects, connected, Transition.target]

/-- A node that is started is disconnected and stopped, whether or not that goes well. -/
theorem stop_observes_nodeRules (node : Node)
    (started : progress.lifecycles (.node node.id) = .started) (quiet : progress.IsQuiet adaptor) :
    node.stop.Observes (nodeRules adaptor) (fun _ later =>
      later = (progress.move (.node node.id) .stopped).mark (disconnects [node])) progress := by
  -- However the collaborator takes it, the node comes to its end from there.
  have closing : (do
      let _ ← Plan.advance (.node node.id) .finishStop
      Plan.log (.nodeStopped node.id)).Observes (nodeRules adaptor)
      (fun _ later => later = (progress.move (.node node.id) .stopped).mark (disconnects [node]))
      ((progress.move (.node node.id) .stopping).mark (disconnects [node])) := by
    refine ⟨quiet, fun moved later led => ?_⟩
    obtain ⟨-, rfl⟩ := moved_of_stands led (Function.update_self ..)
    refine ⟨trivial, fun _ later led => ?_⟩
    cases led
    show NodeProgress.move _ _ _ = _
    simp [Transition.target]
  unfold stop
  refine ⟨quiet, fun moved later led => ?_⟩
  obtain ⟨rfl, rfl⟩ := moved_of_stands led started
  -- A node that was not connected is not disconnected either.
  cases connected : node.isConnected with
  | false =>
    have nothing : disconnects [node] = [] := by simp [disconnects, connected]
    simp only [nothing, NodeProgress.mark_nil] at closing ⊢
    exact closing
  | true =>
    have once : disconnects [node] = [.disconnected node.id] := by simp [disconnects, connected]
    rw [once] at closing ⊢
    refine ⟨quiet, fun outcome later led => ?_⟩
    cases outcome with
    | ok _ =>
      cases led
      exact closing
    | error cause =>
      -- A failure is reported, and changes nothing.
      cases led
      refine ⟨trivial, fun _ later led => ?_⟩
      cases led
      exact closing

/-- A node that is stopped is left alone. -/
theorem stop_observes_stopped (node : Node)
    (stopped : progress.lifecycles (.node node.id) = .stopped) (quiet : progress.IsQuiet adaptor) :
    node.stop.Observes (nodeRules adaptor) (fun _ later => later = progress) progress := by
  -- No transition begins where the node stands, so it is told that it has not moved.
  unfold stop
  refine ⟨quiet, fun moved later led => ?_⟩
  obtain ⟨rfl, rfl⟩ := unmoved_of_apart led (by simp [stopped, Transition.source])
  rfl

end Node

namespace Adaptor

/-- Moving one node leaves the others where they are. -/
theorem moved_apart {node : Node} {rest : List Node} {state next : Lifecycle}
    (apart : node.id ∉ rest.map (·.id))
    (stand : ∀ other ∈ rest, progress.lifecycles (.node other.id) = state) :
    ∀ other ∈ rest, (progress.move (.node node.id) next).lifecycles (.node other.id) = state := by
  -- Another node has another name.
  intro other member
  have differs : Component.node other.id ≠ .node node.id := fun same =>
    apart (List.mem_map.mpr ⟨other, member, Component.node.inj same⟩)
  rw [NodeProgress.lifecycles_move, Function.update_of_ne differs]
  exact stand other member

/-- Nodes are started one after the other, up to the first that cannot be connected. -/
theorem startEach_observes_nodeRules {nodes : List Node} (distinct : (nodes.map (·.id)).Nodup)
    (stopped : ∀ node ∈ nodes, progress.lifecycles (.node node.id) = .stopped)
    (early : progress.roll.begun = []) :
    (startEach nodes).Observes (nodeRules adaptor) (fun started later =>
      match started with
      | .ok _ => later = (progress.moveEach nodes .started).mark (connects nodes)
      | .error (node, cause) => ∃ before after, nodes = before ++ node :: after ∧
          later = (progress.moveEach before .started).mark
            (connects before ++ [.refused node.id cause])) progress := by
  -- Each node that is started moves another component, so the progress is generalised.
  induction nodes generalizing progress with
  | nil => simp [startEach, Plan.Observes]
  | cons node rest ih =>
    obtain ⟨apart, distinct⟩ := List.nodup_cons.mp distinct
    obtain ⟨first, others⟩ := List.forall_mem_cons.mp stopped
    refine (node.start_observes_nodeRules first early).bind fun started later moved => ?_
    cases started with
    -- This node is the one that could not be connected, and none was started before it here.
    | error cause =>
      obtain rfl : later = progress.mark [.refused node.id cause] := moved
      exact ⟨[], rest, rfl, by simp⟩
    -- The others come after this one, which is connected by then.
    | ok _ =>
      obtain rfl : later = (progress.move (.node node.id) .started).mark (connects [node]) := moved
      refine Plan.Observes.weaken (ih distinct (moved_apart apart others) early)
        fun outcome final kept => ?_
      cases outcome with
      | ok _ =>
        obtain rfl := kept
        simp [NodeProgress.moveEach_cons, ← NodeMark.connects_append]
      | error failed =>
        obtain ⟨before, after, rfl, rfl⟩ := kept
        refine ⟨node :: before, after, rfl, ?_⟩
        simp [NodeProgress.moveEach_cons, ← List.append_assoc, ← NodeMark.connects_append]

/-- Nodes that are started are stopped one after the other. -/
theorem stopEach_observes_started {nodes : List Node} (distinct : (nodes.map (·.id)).Nodup)
    (started : ∀ node ∈ nodes, progress.lifecycles (.node node.id) = .started)
    (quiet : progress.IsQuiet adaptor) :
    (stopEach nodes).Observes (nodeRules adaptor) (fun _ later =>
      later = (progress.moveEach nodes .stopped).mark (disconnects nodes)) progress := by
  -- As when nodes are started, each of them moves another component.
  induction nodes generalizing progress with
  | nil => simp [stopEach, Plan.Observes]
  | cons node rest ih =>
    obtain ⟨apart, distinct⟩ := List.nodup_cons.mp distinct
    obtain ⟨first, others⟩ := List.forall_mem_cons.mp started
    refine (node.stop_observes_nodeRules first quiet).bind ?_
    rintro _ _ rfl
    refine Plan.Observes.weaken (ih distinct (moved_apart apart others) quiet) ?_
    rintro _ _ rfl
    simp [NodeProgress.moveEach_cons, ← NodeMark.disconnects_append]

/-- Nodes that were never started do not mind being stopped. -/
theorem stopEach_observes_nodeRules {idle running : List Node}
    (stopped : ∀ node ∈ idle, progress.lifecycles (.node node.id) = .stopped)
    (distinct : (running.map (·.id)).Nodup)
    (started : ∀ node ∈ running, progress.lifecycles (.node node.id) = .started)
    (quiet : progress.IsQuiet adaptor) :
    (stopEach (idle ++ running)).Observes (nodeRules adaptor) (fun _ later =>
      later = (progress.moveEach running .stopped).mark (disconnects running)) progress := by
  -- Only the nodes at the front are in question, and none of them changes anything.
  induction idle with
  | nil => exact stopEach_observes_started distinct started quiet
  | cons node rest ih =>
    obtain ⟨first, others⟩ := List.forall_mem_cons.mp stopped
    refine (node.stop_observes_stopped first quiet).bind ?_
    rintro _ _ rfl
    exact ih others

/-- All nodes are started, or else those that were are stopped again. -/
theorem startNodes_observes_nodeRules
    (stopped : ∀ node ∈ adaptor.router.nodes.toList,
      progress.lifecycles (.node node.id) = .stopped)
    (early : progress.roll.begun = []) :
    adaptor.startNodes.Observes (nodeRules adaptor) (fun started later =>
      match started with
      | .ok _ => later = (progress.moveEach adaptor.router.nodes.toList .started).mark
          (connects adaptor.router.nodes.toList)
      | .error refusal => ∃ before node after cause,
          adaptor.router.nodes.toList = before ++ node :: after ∧
          refusal = .nodeStartFailed node.id cause ∧
          later = progress.mark
            (connects before ++ [.refused node.id cause] ++ disconnects before.reverse))
              progress := by
  have distinct := adaptor.router.nodes.nodup_map_id_toList
  unfold startNodes
  refine (startEach_observes_nodeRules distinct stopped early).bind fun started later kept => ?_
  cases started with
  -- All nodes were started, and nothing has to be taken back.
  | ok _ => exact kept
  | error failed =>
    obtain ⟨node, cause⟩ := failed
    obtain ⟨before, after, split, rfl⟩ := kept
    have unique : (before.map (·.id) ++ node.id :: after.map (·.id)).Nodup := by
      simpa [split] using distinct
    -- The nodes that were started come first in the list, and are the last to be stopped.
    have reversed : adaptor.router.nodes.toList.reverse =
        (after.reverse ++ [node]) ++ before.reverse := by
      simp [split]
    rw [stopNodes, reversed]
    obtain ⟨distinctBefore, _, apart⟩ := List.nodup_append.mp unique
    -- The node that failed and those after it are as they were,
    have idle : ∀ other ∈ after.reverse ++ [node],
        (progress.moveEach before .started).lifecycles (.node other.id) = .stopped := by
      intro other member
      have later : other ∈ node :: after := by simpa [or_comm] using member
      have elsewhere : other.id ∉ before.map (·.id) := fun listed =>
        apart _ listed other.id (by simpa using List.mem_map_of_mem later) rfl
      rw [NodeProgress.moveEach_apart _ elsewhere]
      exact stopped other (by simp [split, later])
    -- those before it are running,
    have running : ∀ other ∈ before.reverse,
        (progress.moveEach before .started).lifecycles (.node other.id) = .started :=
      fun other member => NodeProgress.moveEach_moved _ (List.mem_reverse.mp member) _
    refine Plan.Observes.bind (stopEach_observes_nodeRules idle
      (by simpa using distinctBefore) running (.inl early)) ?_
    rintro _ _ rfl
    refine ⟨before, node, after, cause, split, rfl, ?_⟩
    -- and stopping those puts them back where they were.
    have restored : progress.moveEach before .stopped = progress :=
      NodeProgress.moveEach_self fun other member => stopped other (by simp [split, member])
    simp [NodeProgress.moveEach_reverse, restored]

/-- All nodes are stopped when nobody is at work any more. -/
theorem stopNodes_observes_nodeRules (ready : progress.IsReady adaptor)
    (quiet : progress.IsQuiet adaptor) :
    adaptor.stopNodes.Observes (nodeRules adaptor) (fun _ later =>
      later = (progress.moveEach adaptor.router.nodes.toList .stopped).mark
        (disconnects adaptor.router.nodes.toList.reverse)) progress := by
  -- They are stopped in reverse, but where they stand then does not depend on the order.
  rw [← NodeProgress.moveEach_reverse]
  exact stopEach_observes_started (by simpa using adaptor.router.nodes.nodup_map_id_toList)
    (fun node member => ready.2 node (List.mem_reverse.mp member)) quiet

/-- Every worker begins where all nodes are connected. -/
theorem spawnEach_observes_nodeRules {sources : List Source}
    (known : ∀ source ∈ sources, source.key ∈ adaptor.sources.map (·.key))
    (ready : progress.IsReady adaptor) :
    (spawnEach sources).Observes (nodeRules adaptor) (fun _ later =>
      later = { progress with
        roll := { progress.roll with begun := progress.roll.begun ++ sources.map (·.key) } })
      progress := by
  -- The workers that have begun add up from source to source.
  induction sources generalizing progress with
  | nil => simp [spawnEach, Plan.Observes]
  | cons source rest ih =>
    obtain ⟨first, others⟩ := List.forall_mem_cons.mp known
    refine ⟨⟨ready, first⟩, fun _ later led => ?_⟩
    cases led
    refine Plan.Observes.weaken (ih others ready) ?_
    rintro _ _ rfl
    simp [Roll.after]

/-- The end of each worker is told once. -/
theorem supervise_observes_nodeRules (failFast : Bool) {remaining : Nat}
    (ready : progress.IsReady adaptor)
    (begun : progress.roll.begun = adaptor.sources.map (·.key))
    (counted : progress.told + remaining = adaptor.sources.length) :
    (supervise failFast remaining).Observes (nodeRules adaptor) (fun _ later =>
      later = { progress with told := adaptor.sources.length }) progress := by
  -- Each round tells one more end, so the number that was told is generalised with the progress.
  induction remaining generalizing progress with
  | zero => exact congrArg (fun told => { progress with told }) counted
  | succ remaining ih =>
    have further : progress.told + 1 + remaining = adaptor.sources.length := by omega
    have goesOn := @ih { progress with told := progress.told + 1 } ready begun further
    refine ⟨⟨ready, by omega, begun⟩, fun exit later led => ?_⟩
    cases led
    obtain ⟨producer, code⟩ := exit
    dsimp only [Plan.bind]
    split
    · -- What is asked about a failure changes nothing about the nodes.
      refine ⟨trivial, fun cancelled later led => ?_⟩
      cases led
      cases cancelled with
      | true => exact goesOn
      | false =>
        refine ⟨trivial, fun _ later led => ?_⟩
        cases led
        refine ⟨trivial, fun _ later led => ?_⟩
        cases led
        exact goesOn
    · exact goesOn

/-- The end of every worker is waited for. -/
theorem collect_observes_nodeRules (report : Report) {sources : List Source}
    (ready : progress.IsReady adaptor)
    (begun : ∀ source ∈ sources, source.key ∈ progress.roll.begun) :
    (collect report sources).Observes (nodeRules adaptor) (fun _ later =>
      later = { progress with
        roll := { progress.roll with ended := progress.roll.ended ++ sources.map (·.key) } })
      progress := by
  -- The report grows from source to source as well, though nothing depends on it here.
  induction sources generalizing report progress with
  | nil => simp [collect, Plan.Observes]
  | cons source rest ih =>
    obtain ⟨first, others⟩ := List.forall_mem_cons.mp begun
    refine ⟨⟨ready, first⟩, fun exit later led => ?_⟩
    cases led
    refine Plan.Observes.weaken (ih _ ready others) ?_
    rintro _ _ rfl
    simp [Roll.after]

/-- Every producer is shut down while the nodes are still connected. -/
theorem shutdownEach_observes_nodeRules {sources : List Source}
    (ready : progress.IsReady adaptor) :
    (shutdownEach sources).Observes (nodeRules adaptor) (fun _ later =>
      later = { progress with
        roll := { progress.roll with shut := progress.roll.shut ++ sources.map (·.key) } })
      progress := by
  -- The producers that were shut down add up from source to source.
  induction sources generalizing progress with
  | nil => simp [shutdownEach, Plan.Observes]
  | cons source rest ih =>
    refine ⟨ready, fun _ later led => ?_⟩
    cases led
    refine Plan.Observes.weaken (ih ready) ?_
    rintro _ _ rfl
    simp [Roll.after]

/-- Every worker is run to its end where all nodes are connected. -/
theorem runWorkers_observes_nodeRules (ready : progress.IsReady adaptor)
    (fresh : progress.roll = .blank) (untold : progress.told = 0) :
    adaptor.runWorkers.Observes (nodeRules adaptor) (fun _ later =>
      later = { progress with
        roll := ⟨adaptor.sources.map (·.key), adaptor.sources.map (·.key), []⟩
        told := adaptor.sources.length }) progress := by
  -- Nobody has begun when the run is opened, so those who begin now are all there are.
  refine ⟨trivial, fun _ later led => ?_⟩
  cases led
  -- All of them begin, the end of each is told, and then each of them is waited for.
  refine (spawnEach_observes_nodeRules (fun source member =>
    List.mem_map.mpr ⟨source, member, rfl⟩) ready).bind ?_
  rintro _ _ rfl
  have begun : progress.roll.begun ++ adaptor.sources.map (·.key) =
      adaptor.sources.map (·.key) := by
    simp [fresh, Roll.blank]
  refine Plan.Observes.bind (supervise_observes_nodeRules _ ready begun (by simp [untold])) ?_
  rintro _ _ rfl
  refine Plan.Observes.weaken (collect_observes_nodeRules _ ready fun source member =>
    List.mem_append_right _ (List.mem_map.mpr ⟨source, member, rfl⟩)) ?_
  rintro _ _ rfl
  simp [fresh, Roll.blank]

/-- Reporting what is wrong with an adaptor changes nothing. -/
theorem reportDefects_observes_nodeRules (defects : List Defect) :
    (reportDefects defects).Observes (nodeRules adaptor) (fun _ later => later = progress)
      progress := by
  -- A report is permitted at any time, and leaves everything as it is.
  refine ((reportDefects_reports defects).observes ?_ ?_ False.elim).weaken fun _ _ => And.right
  · rintro _ ⟨_, rfl⟩
    trivial
  · rintro _ _ _ ⟨_, rfl⟩ led
    cases led
    rfl

/-- From the moment that nodes are looked at, an adaptor whose nodes are stopped treats them by the
rules. -/
theorem runStarted_observes_nodeRules
    (stopped : ∀ node ∈ adaptor.router.nodes.toList,
      progress.lifecycles (.node node.id) = .stopped)
    (fresh : progress.roll = .blank) (untold : progress.told = 0) (unmarked : progress.marks = []) :
    adaptor.runStarted.Observes (nodeRules adaptor) (adaptor.Leaves progress) progress := by
  unfold runStarted
  dsimp only
  split
  · -- Where something was found beforehand, it is reported and nothing else is done.
    rename_i found
    refine (reportDefects_observes_nodeRules _).bind ?_
    rintro _ _ rfl
    exact ⟨by simpa using found, rfl, rfl⟩
  · -- The clock and a report are all that comes before the nodes.
    rename_i sane
    have sound : adaptor.defects = [] := by simpa using sane
    refine ⟨trivial, fun start later led => ?_⟩
    cases led
    refine ⟨trivial, fun _ later led => ?_⟩
    cases led
    refine (startNodes_observes_nodeRules stopped
      (congrArg Roll.begun fresh)).bind fun started later kept => ?_
    cases started with
    -- Where a node could not be connected, the start has been taken back already.
    | error refusal =>
      obtain ⟨before, node, after, cause, split, rfl, rfl⟩ := kept
      exact ⟨sound, before, node, after, split, rfl, rfl⟩
    | ok _ =>
      -- Otherwise all nodes are ready by the time that the workers begin.
      have opened : later = (progress.moveEach adaptor.router.nodes.toList .started).mark
        (connects adaptor.router.nodes.toList) := kept
      have ready : later.IsReady adaptor := by
        rw [opened]
        exact ⟨by simp [unmarked], fun node member => NodeProgress.moveEach_moved _ member _⟩
      refine (runWorkers_observes_nodeRules ready (by rw [opened]; exact fresh)
        (by rw [opened]; exact untold)).bind fun report working done => ?_
      -- Neither the workers nor the end of their producers moves any node.
      have busy : working.IsReady adaptor := by
        rw [done]
        exact ready
      refine (shutdownEach_observes_nodeRules busy).bind fun _ worked shut => ?_
      -- By now every producer was shut down, so that the nodes can be stopped.
      obtain rfl : worked = later.worked adaptor := by
        rw [shut, done]
        rfl
      have quiet : (later.worked adaptor).IsQuiet adaptor := .inr fun source member =>
        have listed := List.mem_map.mpr ⟨source, member, rfl⟩
        ⟨listed, listed⟩
      refine (stopNodes_observes_nodeRules (by exact ready) quiet).bind
        fun _ closed left => ?_
      -- Each node is back where it was.
      have restored : (progress.worked adaptor).moveEach adaptor.router.nodes.toList .stopped =
          progress.worked adaptor :=
        NodeProgress.moveEach_self stopped
      -- What is left is the clock and a last report.
      refine ⟨trivial, fun _ last led => ?_⟩
      cases led
      refine ⟨trivial, fun _ last led => ?_⟩
      cases led
      refine ⟨sound, ?_⟩
      show closed = _
      simp [left, opened, restored]

/-- However a run ends, every component stands where it stood. -/
theorem Leaves.lifecycles_eq {result : Except Refusal Report}
    (left : adaptor.Leaves progress result later) : later.lifecycles = progress.lifecycles := by
  -- Only the lifecycles matter here, and none of the results changes any of them.
  cases result with
  | ok report =>
    obtain ⟨_, rfl⟩ := left
    rfl
  | error refusal =>
    cases refusal with
    | defective defects =>
      obtain ⟨_, _, rfl⟩ := left
      rfl
    | alreadyRunning => exact left.elim
    | nodeStartFailed failed cause =>
      obtain ⟨_, _, _, _, _, _, rfl⟩ := left
      rfl

/-- The adaptor itself is stopped at the end of a run, as it was before. -/
theorem Leaves.stop {result : Except Refusal Report} {state : Lifecycle}
    (left : adaptor.Leaves (progress.move .adaptor state) result later)
    (stopped : progress.lifecycles .adaptor = .stopped) :
    adaptor.Leaves progress result (later.move .adaptor .stopped) := by
  have restored : progress.move .adaptor .stopped = progress := NodeProgress.move_self stopped
  -- Each result leaves the same, whether the adaptor is moved before or afterwards.
  cases result with
  | ok report =>
    obtain ⟨sound, rfl⟩ := left
    refine ⟨sound, ?_⟩
    simp [← NodeProgress.worked_move, restored]
  | error refusal =>
    cases refusal with
    | defective defects =>
      obtain ⟨found, same, rfl⟩ := left
      exact ⟨found, same, by simp [restored]⟩
    | alreadyRunning => exact left
    | nodeStartFailed failed cause =>
      obtain ⟨sound, before, node, after, split, same, rfl⟩ := left
      exact ⟨sound, before, node, after, split, same, by simp [restored]⟩

/-- An adaptor that is idle treats its nodes by the rules, and every component is back where it was
when its run is over. -/
theorem run_observes_nodeRules {lifecycles : Component → Lifecycle}
    (idle : adaptor.IsIdle lifecycles) :
    adaptor.run.Observes (nodeRules adaptor) (adaptor.Leaves (.opening lifecycles))
      (.opening lifecycles) := by
  -- The adaptor is started first, which no node takes notice of.
  refine ⟨trivial, fun moved later led => ?_⟩
  obtain ⟨rfl, rfl⟩ := moved_of_stands led idle.1
  have stopped : ∀ node ∈ adaptor.router.nodes.toList,
      ((NodeProgress.opening lifecycles).move .adaptor .started).lifecycles (.node node.id) =
        .stopped := by
    intro node member
    rw [NodeProgress.lifecycles_move, Function.update_of_ne (by simp)]
    exact idle.2 node member
  refine (runStarted_observes_nodeRules stopped rfl rfl rfl).bind fun result later left => ?_
  -- It is still started when the run is over, and is stopped in two moves.
  have running : later.lifecycles .adaptor = .started := by
    simp [Leaves.lifecycles_eq left]
  refine ⟨trivial, fun _ stopping led => ?_⟩
  obtain ⟨-, rfl⟩ := moved_of_stands led running
  refine ⟨trivial, fun _ last led => ?_⟩
  obtain ⟨-, rfl⟩ := moved_of_stands led (by simp [Transition.source, Transition.target])
  rw [NodeProgress.move_move]
  exact Leaves.stop left idle.1

/-- An adaptor that something was found wrong with reports it, and touches nothing but its own
lifecycle. -/
theorem run_formal (found : adaptor.defects ≠ []) :
    adaptor.run.Confined (·.isFormal = true) False fun _ => True := by
  -- Between the moves of the adaptor there is nothing but the reports of what was found.
  have reports : adaptor.runStarted.Confined (·.isFormal = true) False fun _ => True := by
    unfold runStarted
    dsimp only
    rw [if_pos (by simpa using found)]
    exact ((reportDefects_reports _).weaken (by rintro _ ⟨_, rfl⟩; rfl) id
      fun _ _ => trivial).bind fun _ _ => trivial
  refine ⟨rfl, fun moved _ _ => ?_⟩
  cases moved with
  | false => trivial
  | true => exact reports.bind fun _ _ => ⟨rfl, fun _ _ _ => ⟨rfl, fun _ _ _ => trivial⟩⟩

end Adaptor

end BatchFlow
