import BatchFlow.Proofs.Adaptor.FailFast
import BatchFlow.Proofs.Adaptor.Interleaving
import BatchFlow.Proofs.Adaptor.NodeOrder
import Mathlib.Data.List.Perm.Basic

/-! The nodes of a run whose tasks take steps in any order. Whatever is done with a producer is done
while all of them are connected, and when the run is over each is back where it was. -/

namespace BatchFlow

open Plan (Exchange Passes)
open NodeMark (connects disconnects)

/-- A question about an adaptor and its nodes as a whole, or about who of its workers is there. -/
def Call.isUpkeep : Call → Bool
  | .log _ | .clock | .advance .adaptor _ | .advance (.node _) _ | .connectNode _
  | .disconnectNode _ | .openRun | .isCancelled | .cancelRun | .spawnWorker _ | .nextExit
  | .collectExit _ => true
  | _ => false

namespace Deed

/-- Whatever a worker does, and whatever is done with a producer or a batch. -/
def isWork : Deed → Bool
  | asked .adaptor exchange => !exchange.call.isUpkeep
  | asked (.worker _) _ | panicked .. => true
  | stopped => false

/-- Nothing but a report, a change to the lifecycle of the adaptor, or that it was stopped. -/
def isFormal : Deed → Bool
  | asked .adaptor exchange => exchange.call.isFormal
  | stopped => true
  | _ => false

end Deed

/-- All that the rules permit an adaptor beyond its upkeep is to shut producers down, once all nodes
are ready. -/
theorem nodeRules_work {adaptor : Adaptor} {progress : NodeProgress} {call : Call}
    (permitted : (nodeRules adaptor).permits progress call) (work : call.isUpkeep = false) :
    progress.IsReady adaptor ∧ ∃ key, call = .shutdownProducer key := by
  -- The rules say `False` of a question to a worker or a batch, and everything else is upkeep.
  cases call with
  | shutdownProducer key => exact ⟨permitted, key, rfl⟩
  | advance component =>
    cases component with
    | producer key => cases permitted
    | _ => cases work
  | _ => first | exact False.elim permitted | contradiction

/-- A worker moves nothing but its producer. -/
theorem Setting.after_ordinary {setting : Setting} {call : Call}
    (ordinary : call.isExecutive = false) {component : Component}
    (apart : ∀ key, component ≠ .producer key) :
    (setting.after call).lifecycles component = setting.lifecycles component := by
  -- Of the changes to a lifecycle, only those of producers are not for the adaptor.
  cases call with
  | advance moved transition =>
    cases moved with
    | producer key => exact Function.update_of_ne (apart key) ..
    | _ => cases ordinary
  | _ => rfl

/-- A permitted question leads the rules on to a progress where the lifecycles stand as the setting
has them afterwards, if they did before. -/
theorem nodeRules_follows {adaptor : Adaptor} {progress : NodeProgress} {setting : Setting}
    {call : Call} {reply : call.Reply} (permitted : (nodeRules adaptor).permits progress call)
    (stands : ∀ component, (∀ key, component ≠ .producer key) →
      progress.lifecycles component = setting.lifecycles component)
    (truth : setting.bears ⟨call, reply⟩ = true) :
    ∃ later, (nodeRules adaptor).after? progress ⟨call, reply⟩ = some later ∧
      ∀ component, (∀ key, component ≠ .producer key) →
        later.lifecycles component = (setting.after call).lifecycles component := by
  -- Only a lifecycle is both kept in the progress and told of, and both follow the same change.
  cases call with
  | advance moved transition =>
    have apart : ∀ key, moved ≠ .producer key := by
      rintro key rfl
      exact permitted
    have same := stands moved apart
    have told : reply = ((setting.lifecycles moved).advance transition).2 := eq_of_beq truth
    refine ⟨progress.move moved ((progress.lifecycles moved).advance transition).1,
      if_pos (same ▸ told), fun component other => ?_⟩
    by_cases here : component = moved
    · subst here
      simp [Setting.after, same]
    · simp [Setting.after, Function.update_of_ne here, stands component other]
  | connectNode node => cases reply <;> exact ⟨_, rfl, stands⟩
  | _ => exact ⟨_, rfl, stands⟩

namespace RunState

variable {adaptor : Adaptor} {setting : Setting} {state later : RunState} {progress : NodeProgress}
  {before after : List Deed} {deed : Deed}

/-- A progress that fits a run: what the adaptor still has to do keeps to the rules from there on,
and its lifecycles, marks and roll are those that the run has left by now. -/
structure NodesTracked (adaptor : Adaptor) (setting : Setting) (state : RunState)
    (progress : NodeProgress) : Prop where
  observes : state.supervisor.Observes (nodeRules adaptor)
    (adaptor.Leaves (.opening setting.lifecycles)) progress
  stands : ∀ component, (∀ key, component ≠ .producer key) →
    progress.lifecycles component = state.setting.lifecycles component
  marks : progress.marks = NodeMark.all (own .adaptor state.journal)
  roll : progress.roll = .of (own .adaptor state.journal)
  told : progress.told = state.told.length
  order : progress.IsQuiet adaptor ∨ progress.IsReady adaptor

/-- After a truthful reply to the adaptor there is again a progress that fits the run. -/
theorem NodesTracked.answered {call : Call} {next : call.Reply → Plan (Except Refusal Report)}
    {reply : call.Reply} (tracked : NodesTracked adaptor setting state progress)
    (asks : state.supervisor = .ask call next)
    (truth : state.setting.bears ⟨call, reply⟩ = true)
    (rest : later.supervisor = next reply) (moved : later.setting = state.setting.after call)
    (grown : later.journal = state.journal ++ [.asked .adaptor ⟨call, reply⟩])
    (told : ∀ furthered, (nodeRules adaptor).after? progress ⟨call, reply⟩ = some furthered →
      furthered.told = later.told.length) :
    ∃ progress, NodesTracked adaptor setting later progress := by
  -- The rules permit the question that the adaptor asks, so they lead to a next progress.
  have observes := tracked.observes
  rw [asks] at observes
  obtain ⟨permitted, goesOn⟩ := observes
  obtain ⟨next, led, stands⟩ := nodeRules_follows permitted tracked.stands truth
  obtain ⟨marks, roll, _⟩ := nodeRules_after led
  refine ⟨next, ?_, ?_, ?_, ?_, told next led, nodeRules_orders ⟨permitted, led⟩ tracked.order⟩
  · rw [rest]
    exact goesOn reply next led
  · rw [moved]
    exact stands
  · simp [marks, tracked.marks, grown]
  · simp [roll, tracked.roll, grown, Roll.of_append_singleton]

/-- Among more workers than the adaptor was told of, there is one that it was not told of. -/
theorem exists_untold (distinct : (adaptor.sources.map (·.key)).Nodup)
    (few : state.told.length < adaptor.sources.length) :
    ∃ source ∈ adaptor.sources, source.key ∉ state.told := by
  -- Otherwise keys that are all different would fit into a shorter list.
  by_contra none
  push Not at none
  have covered : adaptor.sources.map (·.key) ⊆ state.told := by
    intro key listed
    obtain ⟨source, member, rfl⟩ := List.mem_map.mp listed
    exact none source member
  have bounded := (List.subperm_of_subset distinct covered).length_le
  simp only [List.length_map] at bounded
  omega

/-- The worker of each producer was waited for, and the producer was shut down. -/
def IsDrained (adaptor : Adaptor) (journal : List Deed) : Prop :=
  ∀ source ∈ adaptor.sources,
    (∃ exchange ∈ own .adaptor journal, exchange.call = .collectExit source.key) ∧
      ∃ exchange ∈ own .adaptor journal, exchange.call = .shutdownProducer source.key

/-- What the result of a run tells of it: it was over before it began, a node was refused and those
that had been connected were disconnected again, or all of them were connected and disconnected. -/
def Tells (adaptor : Adaptor) (journal : List Deed) : Except Refusal Report → Prop
  | .error (.defective defects) => adaptor.defects ≠ [] ∧ defects = adaptor.defects
  | .error .alreadyRunning => False
  | .error (.nodeStartFailed failed cause) =>
    adaptor.defects = [] ∧ (∀ deed ∈ journal, deed.isWork = false) ∧
      ∃ before node after, adaptor.router.nodes.toList = before ++ node :: after ∧
        node.id = failed ∧ NodeMark.all (own .adaptor journal) =
          connects before ++ [.refused failed cause] ++ disconnects before.reverse
  | .ok _ =>
    adaptor.defects = [] ∧ IsDrained adaptor journal ∧
      NodeMark.all (own .adaptor journal) =
        connects adaptor.router.nodes.toList ++ disconnects adaptor.router.nodes.toList.reverse

section Idle

-- Producers are told apart, and nothing is running when a run begins.
variable (distinct : (adaptor.sources.map (·.key)).Nodup) (idle : adaptor.IsIdle setting.lifecycles)

include distinct idle

/-- Whatever the other tasks do, there is a progress that fits the run. -/
theorem Reachable.tracked (reachable : Reachable adaptor setting state) :
    ∃ progress, NodesTracked adaptor setting state progress := by
  -- By induction on the steps: what the adaptor is answered moves the progress, and what anybody
  -- else does leaves it alone.
  induction reachable with
  | start =>
    exact ⟨_, adaptor.run_observes_nodeRules idle, fun _ _ => rfl, rfl, rfl, rfl,
      .inl (.inl rfl)⟩
  | @step state later reachable step ih =>
    obtain ⟨progress, tracked⟩ := ih
    cases step with
    -- The adaptor is answered, and the progress goes on with what the rules say of the reply.
    | lead asks aside apart truth =>
      exact tracked.answered asks truth rfl rfl rfl fun furthered led =>
        ((nodeRules_after led).2.2 apart).trans tracked.told
    | notice member asks begun ended untold =>
      exact tracked.answered asks rfl rfl rfl rfl fun furthered led => by
        -- One more worker has been told of.
        cases led
        simp [goOn, tracked.told]
    | begin member asks =>
      exact tracked.answered asks rfl rfl rfl rfl fun furthered led =>
        ((nodeRules_after led).2.2 fun same => by cases same).trans tracked.told
    | collect asks begun ended =>
      exact tracked.answered asks rfl rfl rfl rfl fun furthered led =>
        ((nodeRules_after led).2.2 fun same => by cases same).trans tracked.told
    | @work key call next reply works truth =>
      -- A worker leaves the lifecycles of the nodes to the adaptor, so what stood still stands.
      have listed : Deed.asked (.worker key) ⟨call, reply⟩ ∈
          state.journal ++ [.asked (.worker key) ⟨call, reply⟩] := by simp
      have ordinary := (reachable.step (.work works truth)).ordinary distinct listed
      refine
        ⟨progress, tracked.observes, fun component apart => ?_, ?_, ?_, tracked.told, tracked.order⟩
      · exact (tracked.stands component apart).trans (Setting.after_ordinary ordinary apart).symm
      · simpa [assign] using tracked.marks
      · simpa [assign] using tracked.roll
    | panic works =>
      -- Neither a panic nor the stopping enters anything in the journal that is tracked.
      refine ⟨progress, tracked.observes, tracked.stands, ?_, ?_, tracked.told, tracked.order⟩
      · simpa [assign] using tracked.marks
      · simpa [assign] using tracked.roll
    | stop =>
      refine ⟨progress, tracked.observes, tracked.stands, ?_, ?_, tracked.told, tracked.order⟩
      · simpa using tracked.marks
      · simpa using tracked.roll

/-- While a worker is under way, all nodes are connected. -/
theorem Reachable.manned_by {key : Nat} {call : Call} {next : call.Reply → Plan WorkerExit}
    (reachable : Reachable adaptor setting state)
    (works : state.workers key = some (.going (.ask call next))) :
    key ∈ (Roll.of (own .adaptor state.journal)).begun ∧
      ∃ progress, NodesTracked adaptor setting state progress ∧ progress.IsReady adaptor := by
  obtain ⟨progress, tracked⟩ := reachable.tracked distinct idle
  have sound := reachable.sound distinct
  obtain ⟨begun, source, member, rfl⟩ := sound.begun key (by simp [tasks, works])
  refine ⟨begun, progress, tracked, tracked.order.resolve_left ?_⟩
  -- It has begun, and it has not ended.
  rintro (none | all)
  · rw [tracked.roll] at none
    simp [none] at begun
  · have ended := (all source member).1
    rw [tracked.roll] at ended
    obtain ⟨duty, exit, present, finished⟩ := sound.ended _ ended
    cases present.symm.trans works
    cases finished

/-- Work is done only after a worker has begun, and while all nodes are connected. -/
theorem Reachable.manned (reachable : Reachable adaptor setting state)
    (step : Step adaptor state later) (grown : later.journal = state.journal ++ [deed])
    (work : deed.isWork = true) :
    ∃ key, key ∈ (Roll.of (own .adaptor state.journal)).begun ∧
      ∃ progress, NodesTracked adaptor setting state progress ∧ progress.IsReady adaptor := by
  -- Only two deeds of the adaptor are work, and the deeds of a worker are work by definition.
  cases deed with
  | asked task exchange =>
    cases task with
    | adaptor =>
      obtain ⟨progress, tracked⟩ := reachable.tracked distinct idle
      obtain ⟨⟨next, asks, _⟩, _⟩ := step.asked_adaptor grown
      have observes := tracked.observes
      rw [asks] at observes
      obtain ⟨ready, key, same⟩ :=
        nodeRules_work observes.1 (by simpa [Deed.isWork] using work)
      -- A producer is shut down when its worker has ended, so that it has begun.
      have sound := reachable.sound distinct
      have supervised := sound.supervised
      rw [show state.tasks.supervisor = .ask exchange.call next from asks] at supervised
      obtain ⟨duty, exit, present, _⟩ := sound.ended key (supervised.1.2.2 key same)
      exact ⟨key, (sound.begun key (by simp [present])).1, progress, tracked, ready⟩
    | worker key =>
      obtain ⟨⟨next, works⟩, _⟩ := step.asked_worker grown
      exact ⟨key, reachable.manned_by distinct idle works⟩
  | panicked key call =>
    obtain ⟨next, works⟩ := step.panicked_worker grown
    exact ⟨key, reachable.manned_by distinct idle works⟩
  | stopped => cases work

/-- Work is done only while all nodes are connected and started. -/
theorem Reachable.ready_at (reachable : Reachable adaptor setting state)
    (done : state.journal = before ++ deed :: after) (work : deed.isWork = true) :
    NodeMark.all (own .adaptor before) = connects adaptor.router.nodes.toList ∧
      ∀ node ∈ adaptor.router.nodes.toList,
        (before.foldl Setting.heed setting).lifecycles (.node node.id) = .started := by
  -- What was the case when the deed was done is read off the state that it was done in.
  obtain ⟨earlier, later, reached, rfl, step, grown⟩ := reachable.split done
  obtain ⟨_, _, progress, tracked, marked, started⟩ :=
    reached.manned distinct idle step grown work
  refine ⟨tracked.marks.symm.trans marked, fun node member => ?_⟩
  -- The setting that the journal leads to is the one that the progress agrees with.
  rw [← reached.heeded, ← tracked.stands _ (by simp)]
  exact started node member

/-- No work is done in a run in which no worker has begun. -/
theorem Reachable.unworked (reachable : Reachable adaptor setting state)
    (none : (Roll.of (own .adaptor state.journal)).begun = []) :
    ∀ deed ∈ state.journal, deed.isWork = false := by
  intro deed listed
  -- A piece of work would show a worker that had begun before it.
  by_contra work
  obtain ⟨before, after, done⟩ := List.append_of_mem listed
  obtain ⟨earlier, later, reached, rfl, step, grown⟩ := reachable.split done
  obtain ⟨key, begun, _⟩ := reached.manned distinct idle step grown (by simpa using work)
  -- Whoever had begun by then is still on the roll.
  obtain ⟨exchange, asked, same⟩ := (Roll.mem_of key _).1.mp begun
  have still := (Roll.mem_of key (own .adaptor state.journal)).1.mpr
    ⟨exchange, by simp [done, asked], same⟩
  simp [none] at still

/-- The adaptor waits for nothing but workers that have begun and not ended. -/
theorem Reachable.goes_on (reachable : Reachable adaptor setting state) :
    (∃ result, state.supervisor = .done result) ∨
      (∃ later exchange, Step adaptor state later ∧
        later.journal = state.journal ++ [.asked .adaptor exchange]) ∨
      ∃ source ∈ adaptor.sources, ∃ duty, state.workers source.key = some duty ∧
        duty.exit? = none := by
  obtain ⟨progress, tracked⟩ := reachable.tracked distinct idle
  have sound := reachable.sound distinct
  have present : ∀ {key : Nat}, key ∈ progress.roll.begun → ∃ duty, state.workers key = some duty :=
    fun begun => Option.ne_none_iff_exists'.mp (reachable.present (tracked.roll ▸ begun))
  have observes := tracked.observes
  cases asks : state.supervisor with
  | done result => exact .inl ⟨result, rfl⟩
  -- The rules have no place for a plan that lacks fuel.
  | starved =>
    rw [asks] at observes
    exact observes.elim
  | ask call next =>
    rw [asks] at observes
    -- The question is one that the rules permit, and that says what has been done before.
    obtain ⟨permitted, _⟩ := observes
    refine .inr ?_
    -- Three questions are answered by workers, and everything else is answered at any time.
    cases call with
    | spawnWorker key =>
      -- A worker can begin at any time.
      obtain ⟨source, member, rfl⟩ := List.mem_map.mp permitted.2
      exact .inl ⟨_, _, .begin member asks, rfl⟩
    | collectExit key =>
      -- A worker whose exit is collected has begun: either it has its exit, or it is the one waited
      -- for.
      obtain ⟨duty, works⟩ := present permitted.2
      cases ended : duty.exit? with
      | some exit => exact .inl ⟨_, _, .collect asks works ended, rfl⟩
      | none =>
        obtain ⟨_, source, member, rfl⟩ := sound.begun key (by simp [tasks, works])
        exact .inr ⟨source, member, duty, works, ended⟩
    | nextExit =>
      obtain ⟨_, few, all⟩ := permitted
      rw [tracked.told] at few
      -- There is somebody whom the adaptor was not told of, and who has ended or not.
      obtain ⟨source, member, untold⟩ := exists_untold distinct few
      obtain ⟨duty, works⟩ := present (all ▸ List.mem_map.mpr ⟨source, member, rfl⟩)
      cases ended : duty.exit? with
      | some exit => exact .inl ⟨_, _, .notice member asks works ended untold, rfl⟩
      | none => exact .inr ⟨source, member, duty, works, ended⟩
    | _ =>
      exact .inl ⟨_, _, .lead asks rfl (fun same => by cases same) (state.setting.bears_reply _),
        rfl⟩

/-- A node is disconnected when no work is done any more: either none was done at all, or else all
workers have ended and all producers were shut down. -/
theorem Reachable.disconnects_after_work (reachable : Reachable adaptor setting state)
    {node : String} {reply : (Call.disconnectNode node).Reply}
    (done : state.journal = before ++ .asked .adaptor ⟨.disconnectNode node, reply⟩ :: after) :
    (∀ deed ∈ after, deed.isWork = false) ∧
      ((∀ deed ∈ before, deed.isWork = false) ∨ IsDrained adaptor before) := by
  constructor
  · -- If a deed after this one were work, this one would come before work.
    intro deed listed
    by_contra work
    obtain ⟨first, rest, rfl⟩ := List.append_of_mem listed
    have split : state.journal = (before ++ .asked .adaptor ⟨.disconnectNode node, reply⟩ :: first)
        ++ deed :: rest := by
      simp [done]
    -- Otherwise nothing but connections would have been made by then.
    obtain ⟨marks, _⟩ := reachable.ready_at distinct idle split (by simpa using work)
    have listed : .disconnected node ∈ connects adaptor.router.nodes.toList := by
      simp [← marks, NodeMark.all, NodeMark.of?]
    simp [connects] at listed
  · obtain ⟨earlier, later, reached, rfl, step, grown⟩ := reachable.split done
    obtain ⟨progress, tracked⟩ := reached.tracked distinct idle
    -- Before it, the rules permit the question only where no work has begun or all of it is done.
    obtain ⟨⟨next, asks, _⟩, _⟩ := step.asked_adaptor grown
    have observes := tracked.observes
    rw [asks] at observes
    have quiet : progress.IsQuiet adaptor := observes.1
    unfold NodeProgress.IsQuiet at quiet
    rw [tracked.roll] at quiet
    refine quiet.imp (reached.unworked distinct idle) fun all source member => ?_
    obtain ⟨ended, shut⟩ := all source member
    exact ⟨(Roll.mem_of _ _).2.1.mp ended, (Roll.mem_of _ _).2.2.mp shut⟩

/-- A run that is over has left nothing running, and its result tells what was done in it. -/
theorem Reachable.closes (reachable : Reachable adaptor setting state)
    {result : Except Refusal Report} (finished : state.supervisor = .done result) :
    adaptor.IsIdle state.setting.lifecycles ∧ Tells adaptor state.journal result := by
  obtain ⟨progress, tracked⟩ := reachable.tracked distinct idle
  have left := tracked.observes
  rw [finished] at left
  have same : progress.lifecycles = setting.lifecycles := Adaptor.Leaves.lifecycles_eq left
  -- The setting agrees with the progress, where everything is back in its place.
  refine ⟨⟨?_, fun node member => ?_⟩, ?_⟩
  · rw [← tracked.stands _ (by simp), same]
    exact idle.1
  · rw [← tracked.stands _ (by simp), same]
    exact idle.2 node member
  · -- What the result tells is read off the progress, whose marks and roll are those of the
    -- journal.
    have marks := tracked.marks
    have roll := tracked.roll
    cases result with
    | ok report =>
      obtain ⟨sound, rfl⟩ := left
      refine ⟨sound, fun source member => ?_, marks.symm.trans rfl⟩
      have listed : source.key ∈ adaptor.sources.map (·.key) :=
        List.mem_map.mpr ⟨source, member, rfl⟩
      exact ⟨(Roll.mem_of _ _).2.1.mp (roll ▸ listed), (Roll.mem_of _ _).2.2.mp (roll ▸ listed)⟩
    | error refusal =>
      cases refusal with
      | defective defects => exact ⟨left.1, left.2.1⟩
      | alreadyRunning => exact left
      | nodeStartFailed failed cause =>
        obtain ⟨sound, before, node, after, split, named, rfl⟩ := left
        refine ⟨sound, reachable.unworked distinct idle (roll ▸ rfl),
          before, node, after, split, named, marks.symm.trans rfl⟩

/-- Where something was found beforehand, nobody but the adaptor itself ever hears of a run. -/
theorem Reachable.formal (reachable : Reachable adaptor setting state)
    (found : adaptor.defects ≠ []) :
    ∀ deed ∈ state.journal, deed.isFormal = true := by
  -- The adaptor lets nobody begin, and without a worker there is no work.
  have formal := ((adaptor.run_formal found).reaches reachable.led).1
  have nobody : (Roll.of (own .adaptor state.journal)).begun = [] := by
    refine List.eq_nil_iff_forall_not_mem.mpr fun key begun => ?_
    obtain ⟨exchange, listed, same⟩ := (Roll.mem_of key _).1.mp begun
    have reported := formal exchange listed
    rw [same] at reported
    cases reported
  intro deed listed
  have idle := reachable.unworked distinct idle nobody deed listed
  cases deed with
  | asked task exchange =>
    cases task with
    | adaptor => exact formal exchange (mem_own.mpr listed)
    | worker key => cases idle
  | panicked key call => cases idle
  | stopped => rfl

omit idle in
/-- Whoever was waited for has ended. -/
theorem Reachable.awaited (reachable : Reachable adaptor setting state) {key : Nat}
    {reply : (Call.collectExit key).Reply}
    (listed : .asked .adaptor ⟨.collectExit key, reply⟩ ∈ state.journal) :
    ∃ duty exit, state.workers key = some duty ∧ duty.exit? = some exit :=
  (reachable.sound distinct).ended key ((Roll.mem_of key _).2.1.mpr ⟨_, mem_own.mpr listed, rfl⟩)

end Idle

/-- However many nodes and workers there are, whatever they answer, and in whatever order the tasks
of a run take their steps, a run that begins when nothing is running starts its nodes before any
work is done, and stops them after all of it. -/
theorem Reachable.starts_and_stops_nodes (distinct : (adaptor.sources.map (·.key)).Nodup)
    (idle : adaptor.IsIdle setting.lifecycles)
    (reachable : Reachable adaptor setting state) :
    -- Where something was found beforehand, nobody but the adaptor itself ever hears of the run.
    (adaptor.defects ≠ [] → ∀ deed ∈ state.journal, deed.isFormal = true) ∧
    -- Otherwise work is done only while all nodes are connected, in order, and started,
    (∀ before deed after, state.journal = before ++ deed :: after → deed.isWork = true →
      NodeMark.all (own .adaptor before) = connects adaptor.router.nodes.toList ∧
        ∀ node ∈ adaptor.router.nodes.toList,
          (before.foldl Setting.heed setting).lifecycles (.node node.id) = .started) ∧
    -- and a node is disconnected only when there was no work to be done, or when all of it is
    -- done: each worker was waited for until it had ended, and each producer was shut down.
    (∀ before node reply after,
      state.journal = before ++ .asked .adaptor ⟨.disconnectNode node, reply⟩ :: after →
      (∀ deed ∈ after, deed.isWork = false) ∧
        ((∀ deed ∈ before, deed.isWork = false) ∨ IsDrained adaptor before)) ∧
    (∀ key reply, .asked .adaptor ⟨.collectExit key, reply⟩ ∈ state.journal →
      ∃ duty exit, state.workers key = some duty ∧ duty.exit? = some exit) ∧
    -- The run comes to its end, as soon as the workers do that it is waiting for.
    adaptor.run.Ends ∧
    ((∃ result, state.supervisor = .done result) ∨
      (∃ later exchange, Step adaptor state later ∧
        later.journal = state.journal ++ [.asked .adaptor exchange]) ∨
      ∃ source ∈ adaptor.sources, ∃ duty, state.workers source.key = some duty ∧
        duty.exit? = none) ∧
    -- In the end nothing is left running, the result tells what the nodes went through, and the
    -- next run is accepted.
    ∀ result, state.supervisor = .done result →
      adaptor.IsIdle state.setting.lifecycles ∧ Tells adaptor state.journal result ∧
      ∀ further, Reachable adaptor state.setting further →
        further.supervisor ≠ .done (.error .alreadyRunning) := by
  refine ⟨reachable.formal distinct idle,
    fun before deed after => reachable.ready_at distinct idle,
    fun before node reply after => reachable.disconnects_after_work distinct idle,
    fun key reply => reachable.awaited distinct, adaptor.run_ends,
    reachable.goes_on distinct idle, fun result finished => ?_⟩
  obtain ⟨still, tells⟩ := reachable.closes distinct idle finished
  exact ⟨still, tells, fun further next refused =>
    (next.closes distinct still refused).2⟩

/-- Three sinks, and a producer whose batches go nowhere. -/
def trio : Adaptor where
  router := ⟨⟨[], [], ["feed"], ["first", "second", "third"], .builtIn⟩, .ofList
    [.plain "first" .sink "First", .plain "second" .sink "Second", .plain "third" .sink "Third"]⟩
  sources := [⟨0, "feed", "Feed", false, ⟨0⟩, []⟩]
  options := .default
  allowance := ⟨1, 4⟩

/-- Surroundings in which the second sink cannot be connected. -/
def refusing (setting : Setting) : (call : Call) → call.Reply
  | .connectNode node => if node = "second" then .error (.connection "refused") else .ok ()
  | call => setting.reply call

/-- Surroundings in which no sink lets itself be disconnected. -/
def clinging (setting : Setting) : (call : Call) → call.Reply
  | .disconnectNode _ => .error (.connection "busy")
  | call => setting.reply call

/-- A run that is over as soon as a node was refused. -/
def turnedDown : List AdaptorTasks.Turn := List.replicate 17 .adaptor

/-- A run whose only worker finds its producer exhausted. -/
def playedOut : List AdaptorTasks.Turn :=
  List.replicate 14 .adaptor ++ List.replicate 9 (.worker 0) ++ List.replicate 22 .adaptor

/-- What a run ended with, if it is over. -/
def result? (state : RunState) : Option (Except Refusal Report) :=
  match state.supervisor with
  | .done result => some result
  | _ => none

/-- A result that was read off a run is what the adaptor has returned. -/
theorem done_of_result? {result : Except Refusal Report}
    (finished : state.result? = some result) : state.supervisor = .done result := by
  unfold result? at finished
  split at finished
  · rename_i done
    cases finished
    exact done
  · cases finished

/-- In the first run the second sink is refused, and the first one disconnected again. The next run
connects all of them, and disconnects all of them in reverse. -/
theorem starts_and_stops_nodes_trio :
    ∃ first second, Reachable trio ⟨fun _ => .stopped, false, false⟩ first ∧
      first.supervisor = .done (.error (.nodeStartFailed "second" (.connection "refused"))) ∧
      NodeMark.all (own .adaptor first.journal) = [.connected "first",
        .refused "second" (.connection "refused"), .disconnected "first"] ∧
      Reachable trio first.setting second ∧ second.supervisor = .done (.ok .empty) ∧
      IsDrained trio second.journal ∧
      NodeMark.all (own .adaptor second.journal) =
        [.connected "first", .connected "second", .connected "third",
          .disconnected "third", .disconnected "second", .disconnected "first"] := by
  have distinct : (trio.sources.map (·.key)).Nodup := by decide
  have idle : trio.IsIdle fun _ => .stopped := ⟨rfl, fun _ _ => rfl⟩
  have sound : trio.defects = [] := Adaptor.defects_eq_nil_iff.mpr (by decide)
  -- What the adaptor would do if nothing were wrong with it is computed without asking what is.
  obtain ⟨plan, same, computed⟩ : ∃ plan, trio.run = plan ∧ ((turnedDown.foldlM
      (turn? trio refusing) ⟨⟨fun _ => .stopped, false, false⟩, plan, fun _ => none, [], []⟩).any
        fun first => first.result? =
          some (.error (.nodeStartFailed "second" (.connection "refused"))) &&
        NodeMark.all (own .adaptor first.journal) = [.connected "first",
          .refused "second" (.connection "refused"), .disconnected "first"] &&
        (playedOut.foldlM (turn? trio clinging) ⟨first.setting, plan, fun _ => none, [], []⟩).any
          fun second => second.result? = some (.ok .empty)) = true := by
    refine ⟨?plan, ?same, ?computed⟩
    case same => rw [Adaptor.run, Adaptor.runStarted, sound]
    case computed => decide +kernel
  have start : ∀ setting, Reachable trio setting ⟨setting, plan, fun _ => none, [], []⟩ :=
    fun setting => same ▸ .start
  obtain ⟨first, reachable, checked⟩ := (start _).exists_turns refusing turnedDown _ computed
  simp only [Bool.and_eq_true, decide_eq_true_eq] at checked
  obtain ⟨⟨refused, marks⟩, further⟩ := checked
  obtain ⟨second, next, finished⟩ := (start _).exists_turns clinging playedOut _ further
  have returned := done_of_result? (of_decide_eq_true finished)
  -- The first run left nothing running, so that the second one may begin.
  obtain ⟨_, _, _, _, _, _, closes⟩ := reachable.starts_and_stops_nodes distinct idle
  obtain ⟨still, _⟩ := closes _ (done_of_result? refused)
  obtain ⟨_, _, _, _, _, _, closes⟩ := next.starts_and_stops_nodes distinct still
  obtain ⟨_, ⟨_, drained, told⟩, _⟩ := closes _ returned
  exact ⟨first, second, reachable, done_of_result? refused, marks, next, returned, drained, told⟩

end RunState

end BatchFlow
