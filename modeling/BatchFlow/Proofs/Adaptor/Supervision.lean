import BatchFlow.Adaptor
import BatchFlow.Proofs.Worker.ProducerHandle

/-! What an adaptor asks during a run: it lets a worker begin for each producer, once, leaves the
producers to their workers, shuts none down before its worker has come to its end, and returns no
report before all of them are shut down. -/

namespace BatchFlow

open Plan (Exchange)

/-- The worker that a question is about: whether it is to begin, or how it ended. -/
def Call.employs? : Call → Option Nat
  | .spawnWorker key | .collectExit key => some key
  | _ => none

/-- The producer that a question is about whose worker is to begin or has ended, or that is to be
shut down. -/
def Call.manages? : Call → Option Nat
  | .spawnWorker key | .collectExit key | .shutdownProducer key => some key
  | _ => none

/-- A question that is about no worker, nor about the connection of a producer or its end. -/
def Call.IsAside (call : Call) : Prop :=
  call.tied? = none ∧ call.manages? = none

/-- A question about a node as a whole, or a report. -/
def Call.isTending : Call → Bool
  | .log _ | .advance (.node _) _ | .connectNode _ | .disconnectNode _ => true
  | _ => false

/-- The workers that were let begin, those whose end was waited for, and the producers that were
shut down. -/
structure Roll where
  begun : List Nat
  ended : List Nat
  shut : List Nat

namespace Roll

/-- Nobody has begun yet. -/
def blank : Roll := ⟨[], [], []⟩

/-- What a question of the adaptor adds. -/
def after (roll : Roll) : Call → Roll
  | .spawnWorker key => { roll with begun := roll.begun ++ [key] }
  | .collectExit key => { roll with ended := roll.ended ++ [key] }
  | .shutdownProducer key => { roll with shut := roll.shut ++ [key] }
  | _ => roll

/-- A question about no worker changes nothing about the workers. -/
theorem after_workers {call : Call} (aside : call.employs? = none) (roll : Roll) :
    (roll.after call).begun = roll.begun ∧ (roll.after call).ended = roll.ended := by
  cases call <;> first | exact ⟨rfl, rfl⟩ | cases aside

end Roll

/-- How an adaptor supervises its workers: none begins twice, none is touched through its producer,
and no producer is shut down before its worker was waited for. -/
def supervision : Plan.Rules Roll where
  permits roll call := call.tied? = none ∧
    (∀ key, call = .spawnWorker key → key ∉ roll.begun) ∧
    ∀ key, call = .shutdownProducer key → key ∈ roll.ended
  after? roll exchange := some (roll.after exchange.call)
  boundless := True

/-- A question that neither begins a worker nor shuts a producer down may be asked at any time. -/
theorem supervision_permits {call : Call} {roll : Roll} (untied : call.tied? = none)
    (apart : ∀ key, call ≠ .spawnWorker key ∧ call ≠ .shutdownProducer key) :
    supervision.permits roll call :=
  ⟨untied, fun key same => absurd same (apart key).1, fun key same => absurd same (apart key).2⟩

/-- What asks about other things only leaves the workers as they are. -/
theorem observes_of_aside {ρ : Type} {plan : Plan ρ} {kept : ρ → Prop} {roll : Roll}
    (confined : plan.Confined Call.IsAside True kept) :
    plan.Observes supervision (fun result later => kept result ∧ later = roll) roll := by
  -- The rules are only about workers and producers, and such a question is about neither.
  refine confined.observes (fun call aside => supervision_permits aside.1 fun key => ?_)
    (fun call reply later aside led => ?_) id
  · constructor <;> rintro rfl <;> cases aside.2
  · cases led
    obtain ⟨_, unmanaged⟩ := aside
    cases call <;> first | rfl | cases unmanaged

/-- What asks about nodes only leaves the workers as they are. -/
theorem observes_of_tending {ρ : Type} {plan : Plan ρ} {kept : ρ → Prop} {roll : Roll}
    (confined : plan.Confined (·.isTending = true) False kept) :
    plan.Observes supervision (fun result later => kept result ∧ later = roll) roll := by
  refine observes_of_aside (confined.weaken (fun call tending => ?_) (fun no => no.elim)
    fun _ kept => kept)
  -- The transitions of nodes are no transitions of producers.
  show call.IsAside
  cases call with
  | advance component => cases component <;> first | exact ⟨rfl, rfl⟩ | cases tending
  | _ => first | exact ⟨rfl, rfl⟩ | cases tending

namespace Node

/-- A node that is started touches nothing but its own collaborator. -/
theorem start_confined (node : Node) :
    node.start.Confined (·.isTending = true) False fun _ => True := by
  unfold start
  refine ⟨rfl, fun moved _ _ => ?_⟩
  cases moved with
  | false => trivial
  | true =>
    -- Whether there is anything to connect or not, a report is the last thing.
    generalize node.isConnected = connected
    cases connected with
    | false => exact ⟨rfl, fun _ _ _ => trivial⟩
    | true =>
      refine ⟨rfl, fun outcome _ _ => ?_⟩
      cases outcome <;> exact ⟨rfl, fun _ _ _ => trivial⟩

/-- A node that is stopped touches nothing but its own collaborator, whatever that answers. -/
theorem stop_confined (node : Node) :
    node.stop.Confined (·.isTending = true) False fun _ => True := by
  unfold stop
  refine ⟨rfl, fun moved _ _ => ?_⟩
  cases moved with
  | false => trivial
  | true =>
    -- A failure to disconnect is reported, and the node is stopped all the same.
    generalize node.isConnected = connected
    cases connected with
    | false => exact ⟨rfl, fun _ _ _ => ⟨rfl, fun _ _ _ => trivial⟩⟩
    | true =>
      refine ⟨rfl, fun outcome _ _ => ?_⟩
      cases outcome with
      | ok _ => exact ⟨rfl, fun _ _ _ => ⟨rfl, fun _ _ _ => trivial⟩⟩
      | error cause =>
        exact ⟨rfl, fun _ _ _ => ⟨rfl, fun _ _ _ => ⟨rfl, fun _ _ _ => trivial⟩⟩⟩

end Node

namespace Adaptor

/-- Nodes that are stopped one by one touch nothing but their own collaborators. -/
theorem stopEach_confined (nodes : List Node) :
    (stopEach nodes).Confined (·.isTending = true) False fun _ => True := by
  induction nodes with
  | nil => trivial
  | cons node rest ih => exact node.stop_confined.bind fun _ _ => ih

/-- So do nodes that are started, as far as they get. -/
theorem startEach_confined (nodes : List Node) :
    (startEach nodes).Confined (·.isTending = true) False fun _ => True := by
  induction nodes with
  | nil => trivial
  -- The first refusal is the end of it.
  | cons node rest ih =>
    refine node.start_confined.bind fun started _ => ?_
    cases started with
    | error cause => trivial
    | ok _ => exact ih

/-- Starting the nodes, or taking that back, asks about nodes only. -/
theorem startNodes_confined (adaptor : Adaptor) :
    adaptor.startNodes.Confined (·.isTending = true) False fun _ => True := by
  -- Those that were started are stopped again if one of them fails.
  refine (startEach_confined _).bind fun started _ => ?_
  cases started with
  | error failed => exact (stopEach_confined _).bind fun _ _ => trivial
  | ok _ => trivial

/-- Defects are reported, and nothing else is done about them. -/
theorem reportDefects_reports (defects : List Defect) :
    (reportDefects defects).Confined (fun call => ∃ event, call = .log event) False
      fun _ => True := by
  induction defects with
  | nil => trivial
  | cons defect rest ih => exact ⟨⟨_, rfl⟩, fun _ _ _ => ih⟩

/-- Reports about defects are among what may be asked about nodes. -/
theorem reportDefects_confined (defects : List Defect) :
    (reportDefects defects).Confined (·.isTending = true) False fun _ => True :=
  (reportDefects_reports defects).weaken (by rintro _ ⟨_, rfl⟩; rfl) id fun _ _ => trivial

/-- An adaptor that waits for the next exit, and deals with it, leaves its workers alone. -/
theorem supervise_aside (failFast : Bool) (remaining : Nat) :
    (supervise failFast remaining).Confined Call.IsAside True fun _ => True := by
  induction remaining with
  | zero => trivial
  | succ remaining ih =>
    refine ⟨⟨rfl, rfl⟩, fun exit _ _ => ?_⟩
    obtain ⟨producer, code⟩ := exit
    -- Only a failure has anything more asked about it.
    dsimp only [Plan.bind]
    split
    · -- A failure cancels the run, unless that has been done before.
      refine ⟨⟨rfl, rfl⟩, fun cancelled _ _ => ?_⟩
      cases cancelled with
      | true => exact ih
      | false => exact ⟨⟨rfl, rfl⟩, fun _ _ _ => ⟨⟨rfl, rfl⟩, fun _ _ _ => ih⟩⟩
    · exact ih

/-- Every worker begins once. -/
theorem spawnEach_observes {sources : List Source} {roll : Roll}
    (distinct : (sources.map (·.key)).Nodup) (fresh : ∀ source ∈ sources, source.key ∉ roll.begun) :
    (spawnEach sources).Observes supervision (fun _ later =>
      later = { roll with begun := roll.begun ++ sources.map (·.key) }) roll := by
  -- The roll grows with each worker, so it is generalised, and the rest of the keys stay off it.
  induction sources generalizing roll with
  | nil => simp [spawnEach, Plan.Observes]
  | cons source rest ih =>
    obtain ⟨apart, distinct⟩ := List.nodup_cons.mp distinct
    refine ⟨⟨rfl, fun key same => ?_, fun _ same => by cases same⟩, fun _ later led => ?_⟩
    · cases same
      exact fresh source (by simp)
    · cases led
      have others : ∀ other ∈ rest, other.key ∉ roll.begun ++ [source.key] := by
        intro other member listed
        rcases List.mem_append.mp listed with old | new
        · exact fresh other (by simp [member]) old
        · exact apart (List.mem_map.mpr ⟨other, member, List.mem_singleton.mp new⟩)
      refine (@ih { roll with begun := roll.begun ++ [source.key] } distinct others).weaken ?_
      rintro _ _ rfl
      simp

/-- Every worker is waited for. -/
theorem collect_observes (report : Report) (sources : List Source) (roll : Roll) :
    (collect report sources).Observes supervision (fun _ later =>
      later = { roll with ended := roll.ended ++ sources.map (·.key) }) roll := by
  -- Report and roll grow side by side, whatever the exits are.
  induction sources generalizing report roll with
  | nil => simp [collect, Plan.Observes]
  | cons source rest ih =>
    refine ⟨supervision_permits rfl (by simp), fun exit later led => ?_⟩
    cases led
    refine (ih _ { roll with ended := roll.ended ++ [source.key] }).weaken ?_
    rintro _ _ rfl
    simp

/-- Every producer is shut down whose worker was waited for. -/
theorem shutdownEach_observes {sources : List Source} {roll : Roll}
    (ended : ∀ source ∈ sources, source.key ∈ roll.ended) :
    (shutdownEach sources).Observes supervision (fun _ later =>
      later = { roll with shut := roll.shut ++ sources.map (·.key) }) roll := by
  -- The shut producers grow by one, and the roll of those who have ended stays as it is.
  induction sources generalizing roll with
  | nil => simp [shutdownEach, Plan.Observes]
  | cons source rest ih =>
    obtain ⟨first, others⟩ := List.forall_mem_cons.mp ended
    refine ⟨⟨rfl, fun _ same => (by cases same), fun _ same => ?_⟩, fun _ later led => ?_⟩
    · cases same
      exact first
    · cases led
      refine (@ih { roll with shut := roll.shut ++ [source.key] } others).weaken ?_
      rintro _ _ rfl
      simp

/-- What is known when a run is over: every worker has ended and its producer was shut down, or
else no worker has begun. -/
def Settles (adaptor : Adaptor) (result : Except Refusal Report) (roll : Roll) : Prop :=
  match result with
  | .ok _ => ∀ source ∈ adaptor.sources, source.key ∈ roll.ended ∧ source.key ∈ roll.shut
  | .error _ => roll.begun = []

/-- When the workers have been run, every one of them was waited for. -/
theorem runWorkers_observes (adaptor : Adaptor) (distinct : (adaptor.sources.map (·.key)).Nodup) :
    adaptor.runWorkers.Observes supervision
      (fun _ later => ∀ source ∈ adaptor.sources, source.key ∈ later.ended) Roll.blank := by
  refine ⟨supervision_permits rfl (by simp), fun _ later led => ?_⟩
  cases led
  -- All workers begin, then all of them are waited for.
  refine (spawnEach_observes distinct (by simp [Roll.after, Roll.blank])).bind ?_
  rintro _ _ rfl
  refine (observes_of_aside (supervise_aside _ _)).bind ?_
  rintro _ _ ⟨_, rfl⟩
  refine (collect_observes _ _ _).weaken ?_
  rintro report _ rfl source member
  exact List.mem_append_right _ (List.mem_map.mpr ⟨source, member, rfl⟩)

/-- Between the two changes of the lifecycle everything is settled, or else nobody has begun. -/
theorem runStarted_observes (adaptor : Adaptor)
    (distinct : (adaptor.sources.map (·.key)).Nodup) :
    adaptor.runStarted.Observes supervision adaptor.Settles Roll.blank := by
  unfold runStarted
  dsimp only
  split
  · -- An adaptor with defects lets nobody begin.
    refine (observes_of_tending (reportDefects_confined _)).bind ?_
    rintro _ _ ⟨_, rfl⟩
    exact rfl
  · -- Otherwise the clock and the log are aside, and the nodes are started before any worker
    -- begins.
    have opening : (Plan.call .clock).Confined Call.IsAside True fun _ => True :=
      Plan.confined_call ⟨rfl, rfl⟩
    have starting : ∀ event, (Plan.log event).Confined Call.IsAside True fun _ => True :=
      fun _ => Plan.confined_call ⟨rfl, rfl⟩
    refine (observes_of_aside opening).bind ?_
    rintro start _ ⟨_, rfl⟩
    refine (observes_of_aside (starting _)).bind ?_
    rintro _ _ ⟨_, rfl⟩
    refine (observes_of_tending adaptor.startNodes_confined).bind ?_
    rintro started _ ⟨_, rfl⟩
    cases started with
    -- If they do not start, nobody has begun.
    | error refusal => exact rfl
    | ok _ =>
      -- If they do, the workers are begun and collected, and then their producers are shut down.
      refine (adaptor.runWorkers_observes distinct).bind fun report roll ended => ?_
      refine (shutdownEach_observes ended).bind ?_
      rintro _ _ rfl
      -- Stopping the nodes changes nothing about that.
      refine (observes_of_tending (stopEach_confined _)).bind ?_
      rintro _ _ ⟨_, rfl⟩
      -- What is left to be done is a report.
      have closing : Plan.Confined Call.IsAside True (fun result => result = .ok report) (do
          Plan.log (.adaptorStopped report.exitCode.toInt report.failures.length
            (← Router.elapsedSince start))
          return (.ok report : Except Refusal Report)) :=
        ⟨⟨rfl, rfl⟩, fun _ _ _ => ⟨⟨rfl, rfl⟩, fun _ _ _ => rfl⟩⟩
      refine (observes_of_aside closing).weaken ?_
      rintro _ _ ⟨rfl, rfl⟩ source member
      exact ⟨ended source member,
        List.mem_append_right _ (List.mem_map.mpr ⟨source, member, rfl⟩)⟩

/-- A run lets every worker begin once, and ends when all of them have ended, or when none has
begun. -/
theorem run_observes (adaptor : Adaptor) (distinct : (adaptor.sources.map (·.key)).Nodup) :
    adaptor.run.Observes supervision adaptor.Settles Roll.blank := by
  refine ⟨supervision_permits rfl (by simp), fun moved later led => ?_⟩
  cases led
  cases moved with
  -- Another run is under way, which this one leaves alone.
  | false => exact rfl
  | true =>
    refine (adaptor.runStarted_observes distinct).bind fun result roll settles => ?_
    refine ⟨supervision_permits rfl (by simp), fun _ later led => ?_⟩
    cases led
    refine ⟨supervision_permits rfl (by simp), fun _ later led => ?_⟩
    cases led
    exact settles

end Adaptor

end BatchFlow
