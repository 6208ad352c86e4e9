import BatchFlow.Proofs.Adaptor.RepeatedRuns
import BatchFlow.Proofs.Worker.CancellationCheck
import Mathlib.Data.List.Nodup

/-! One run of an adaptor with its workers, with anybody who stops it, and with what they share:
where each component stands, and whether the run is cancelled. The tasks take steps in any order.
Collaborators may answer anything, but what is said of the shared state is true. -/

namespace BatchFlow

open Plan (Exchange Passes)

/-- Whose turn it is to ask. -/
inductive Task where
  | adaptor
  /-- The worker of a producer. -/
  | worker (key : Nat)
deriving DecidableEq

/-- Something that is done during a run. -/
inductive Deed where
  /-- A task asked something and was answered. -/
  | asked (task : Task) (exchange : Exchange)
  /-- The worker of a producer asked this, and that was the end of it. -/
  | panicked (key : Nat) (call : Call)
  /-- Somebody asked the adaptor to stop for good. -/
  | stopped

namespace Deed

/-- What a task was answered. -/
def answered? (task : Task) : Deed → Option Exchange
  | asked asker exchange => if asker = task then some exchange else none
  | _ => none

/-- What happened, whoever did it. -/
def occurrence? : Deed → Option Occurrence
  | asked _ exchange => some (.exchange exchange)
  | panicked key call => some (.panic key call)
  | stopped => none

end Deed

/-- What a task went through. -/
def own (task : Task) (journal : List Deed) : List Exchange :=
  journal.filterMap (·.answered? task)

/-- A task went through all of a journal in the order of its parts. -/
@[simp] theorem own_append (task : Task) (first rest : List Deed) :
    own task (first ++ rest) = own task first ++ own task rest :=
  List.filterMap_append

/-- In an empty journal nobody went through anything. -/
@[simp] theorem own_nil (task : Task) : own task [] = [] := rfl

/-- What was asked is part of what the task went through that asked it, and of nothing else. -/
@[simp] theorem own_asked (task asker : Task) (exchange : Exchange) (rest : List Deed) :
    own task (.asked asker exchange :: rest) =
      if asker = task then exchange :: own task rest else own task rest := by
  by_cases same : asker = task <;> simp [own, Deed.answered?, same]

/-- A panic is no exchange of any task. -/
@[simp] theorem own_panicked (task : Task) (key : Nat) (call : Call) (rest : List Deed) :
    own task (.panicked key call :: rest) = own task rest := rfl

/-- Neither is the stop of the adaptor. -/
@[simp] theorem own_stopped (task : Task) (rest : List Deed) :
    own task (.stopped :: rest) = own task rest := rfl

/-- A task went through an exchange if it is in the journal under its name. -/
theorem mem_own {task : Task} {exchange : Exchange} {journal : List Deed} :
    exchange ∈ own task journal ↔ .asked task exchange ∈ journal := by
  unfold own
  rw [List.mem_filterMap]
  constructor
  · rintro ⟨deed, listed, answered⟩
    -- Other deeds are no exchanges of anybody.
    cases deed with
    | asked asker other =>
      obtain ⟨rfl, same⟩ := Option.ite_none_right_eq_some.mp answered
      cases same
      exact listed
    | _ => cases answered
  · exact fun listed => ⟨_, listed, by simp [Deed.answered?]⟩

/-- The answer tells that the run was cancelled. -/
def Plan.Exchange.tellsCancelled : Exchange → Bool
  | ⟨.isCancelled, cancelled⟩ => cancelled
  | ⟨.pause _, cut⟩ => cut
  | ⟨.poll .., .cancelled⟩ => true
  | _ => false

/-- What the tasks of an adaptor share. It outlasts a run. -/
structure Setting where
  lifecycles : Component → Lifecycle
  /-- The run was cancelled, or the one before it if it has not been opened yet. -/
  cancelled : Bool
  /-- The adaptor was stopped for good. -/
  stopped : Bool

namespace Setting

/-- Whether a task would see the run cancelled. -/
def isCancelled (setting : Setting) : Bool := setting.cancelled || setting.stopped

/-- What an answer says of the setting is true. -/
def bears (setting : Setting) : Exchange → Bool
  | ⟨.advance component transition, moved⟩ =>
    moved == ((setting.lifecycles component).advance transition).2
  | ⟨.isCancelled, cancelled⟩ => cancelled == setting.isCancelled
  -- A poll or a pause may still come to its own end when the run has been cancelled.
  | exchange => !exchange.tellsCancelled || setting.isCancelled

/-- What can be answered truthfully when nothing happens. -/
def reply (setting : Setting) : (call : Call) → call.Reply
  | .advance component transition => ((setting.lifecycles component).advance transition).2
  | .isCancelled => setting.isCancelled
  | call => Plan.uneventful call

/-- There is a truthful reply to every question. -/
theorem bears_reply (setting : Setting) (call : Call) :
    setting.bears ⟨call, setting.reply call⟩ = true := by
  -- The lifecycles and the cancellation are read off the setting, and anything is true of the rest.
  cases call with
  | advance | isCancelled => exact beq_self_eq_true _
  | _ => rfl

/-- The setting after a question. -/
def after (setting : Setting) : Call → Setting
  | .advance component transition =>
    let (lifecycle, _) := (setting.lifecycles component).advance transition
    { setting with lifecycles := Function.update setting.lifecycles component lifecycle }
  | .openRun => { setting with cancelled := false }
  | .cancelRun => { setting with cancelled := true }
  | _ => setting

/-- The setting after something was done. -/
def heed (setting : Setting) : Deed → Setting
  | .asked _ exchange => setting.after exchange.call
  | .panicked .. => setting
  | .stopped => { setting with stopped := true }

end Setting

/-- The code that is told of a worker that has ended; without an exit of its own it panicked. -/
def toldCode (exit : Option WorkerExit) : Int32 := exit.elim 1 (·.code)

/-- A run: the setting, what the adaptor has yet to do, the workers that have begun, those whose end
was told, and everything that has been done. -/
structure RunState where
  setting : Setting
  supervisor : Plan (Except Refusal Report)
  workers : Nat → Option Duty
  told : List Nat
  journal : List Deed

namespace RunState

/-- A run that is about to begin. -/
def opening (adaptor : Adaptor) (setting : Setting) : RunState :=
  ⟨setting, adaptor.run, fun _ => none, [], []⟩

/-- The adaptor itself has gone on. -/
def goOn (state : RunState) (rest : Plan (Except Refusal Report)) (asked : Exchange) : RunState :=
  { state with supervisor := rest, journal := state.journal ++ [.asked .adaptor asked] }

/-- Something has become of a worker. -/
def assign (state : RunState) (key : Nat) (duty : Duty) (deed : Deed) : RunState :=
  { state with
    workers := Function.update state.workers key (some duty)
    journal := state.journal ++ [deed] }

/-- One step of one of the tasks, or somebody stops the adaptor. -/
inductive Step (adaptor : Adaptor) : RunState → RunState → Prop where
  /-- The adaptor itself goes on. -/
  | lead {state : RunState} {call : Call} {next : call.Reply → Plan (Except Refusal Report)}
      {reply : call.Reply} (asks : state.supervisor = .ask call next)
      (aside : call.employs? = none) (apart : call ≠ .nextExit)
      (truth : state.setting.bears ⟨call, reply⟩) :
    Step adaptor state
      ({ state with setting := state.setting.after call }.goOn (next reply) ⟨call, reply⟩)
  /-- The adaptor is told of a worker that has ended, once for each. -/
  | notice {state : RunState} {source : Source}
      {next : String × Int32 → Plan (Except Refusal Report)} {duty : Duty}
      {exit : Option WorkerExit} (member : source ∈ adaptor.sources)
      (asks : state.supervisor = .ask .nextExit next)
      (begun : state.workers source.key = some duty) (ended : duty.exit? = some exit)
      (untold : source.key ∉ state.told) :
    Step adaptor state ({ state with told := state.told ++ [source.key] }.goOn
      (next (source.id, toldCode exit)) ⟨.nextExit, (source.id, toldCode exit)⟩)
  /-- A worker begins. -/
  | begin {state : RunState} {source : Source} {next : Unit → Plan (Except Refusal Report)}
      (member : source ∈ adaptor.sources)
      (asks : state.supervisor = .ask (.spawnWorker source.key) next) :
    Step adaptor state ({ state with supervisor := next () }.assign source.key
      (.going (adaptor.workerFor source).run) (.asked .adaptor ⟨.spawnWorker source.key, ()⟩))
  /-- The exit of a worker that has ended is taken. -/
  | collect {state : RunState} {key : Nat} {next : Option WorkerExit → Plan (Except Refusal Report)}
      {duty : Duty} {exit : Option WorkerExit}
      (asks : state.supervisor = .ask (.collectExit key) next)
      (begun : state.workers key = some duty) (ended : duty.exit? = some exit) :
    Step adaptor state (state.goOn (next exit) ⟨.collectExit key, exit⟩)
  /-- A worker goes on. -/
  | work {state : RunState} {key : Nat} {call : Call} {next : call.Reply → Plan WorkerExit}
      {reply : call.Reply} (works : state.workers key = some (.going (.ask call next)))
      (truth : state.setting.bears ⟨call, reply⟩) :
    Step adaptor state ({ state with setting := state.setting.after call }.assign key
      (.going (next reply)) (.asked (.worker key) ⟨call, reply⟩))
  /-- A worker is brought down by a panic. -/
  | panic {state : RunState} {key : Nat} {call : Call} {next : call.Reply → Plan WorkerExit}
      (works : state.workers key = some (.going (.ask call next))) :
    Step adaptor state (state.assign key (.panicked call) (.panicked key call))
  /-- Somebody stops the adaptor, whatever it is doing. -/
  | stop {state : RunState} :
    Step adaptor state { state with
      setting := { state.setting with stopped := true }
      journal := state.journal ++ [.stopped] }

/-- What can become of a run that begins in a setting. -/
inductive Reachable (adaptor : Adaptor) (setting : Setting) : RunState → Prop where
  | start : Reachable adaptor setting (opening adaptor setting)
  | step {state later : RunState} (reachable : Reachable adaptor setting state)
      (step : Step adaptor state later) : Reachable adaptor setting later

variable {adaptor : Adaptor} {setting : Setting} {state later : RunState}

/-- Each step is one deed, and the setting is what the deed makes of it. -/
theorem Step.heeds (step : Step adaptor state later) :
    ∃ deed, later.journal = state.journal ++ [deed] ∧ later.setting = state.setting.heed deed := by
  cases step <;> exact ⟨_, rfl, rfl⟩

/-- Whatever was done, there was a moment right before it. -/
theorem Reachable.split (reachable : Reachable adaptor setting state) {before after : List Deed}
    {deed : Deed} (done : state.journal = before ++ deed :: after) :
    ∃ earlier later, Reachable adaptor setting earlier ∧ earlier.journal = before ∧
      Step adaptor earlier later ∧ later.journal = before ++ [deed] := by
  -- The induction is on the run: either the deed is the latest one, or it was there before.
  induction reachable generalizing after with
  | start => simp [opening] at done
  | @step state later reachable step ih =>
    obtain ⟨last, grown, _⟩ := step.heeds
    rw [grown] at done
    rcases List.eq_nil_or_concat after with rfl | ⟨rest, final, rfl⟩
    · obtain ⟨same, latest⟩ := List.append_inj' done rfl
      cases latest
      exact ⟨state, later, reachable, same, step, same ▸ grown⟩
    · have longer : state.journal ++ [last] = (before ++ deed :: rest) ++ [final] := by
        simpa using done
      exact ih (List.append_inj' longer rfl).1

/-- The setting is what everything that was done has made of the first one. -/
theorem Reachable.heeded (reachable : Reachable adaptor setting state) :
    state.setting = state.journal.foldl Setting.heed setting := by
  -- By induction on the run, since each step adds one deed to the journal and heeds it.
  induction reachable with
  | start => rfl
  | step reachable step ih =>
    obtain ⟨deed, grown, heeds⟩ := step.heeds
    rw [grown, List.foldl_append, ← ih]
    exact heeds

/-- The run as the tasks of an adaptor, without what they share. -/
def tasks (state : RunState) : AdaptorTasks :=
  ⟨fun key => state.setting.lifecycles (.producer key), state.supervisor, state.workers,
    state.journal.filterMap (·.occurrence?)⟩

end RunState

/-- What is true of a setting is true of the handles of its producers. -/
theorem Setting.handles_after {setting : Setting} {call : Call} {reply : call.Reply}
    (truth : setting.bears ⟨call, reply⟩ = true) :
    handlesAfter? (fun key => setting.lifecycles (.producer key)) ⟨call, reply⟩ =
      some fun key => (setting.after call).lifecycles (.producer key) := by
  -- Only a change to the lifecycle of a producer concerns the handles, and there both sides agree.
  cases call with
  | advance component transition =>
    have moved : reply = ((setting.lifecycles component).advance transition).2 := eq_of_beq truth
    cases component with
    | producer key =>
      have told : handlesAfter? (fun key => setting.lifecycles (.producer key))
          ⟨.advance (.producer key) transition, reply⟩ =
          some (Function.update (fun key => setting.lifecycles (.producer key)) key
            ((setting.lifecycles (.producer key)).advance transition).1) := if_pos moved
      rw [told]
      refine congrArg some (funext fun other => ?_)
      by_cases same : other = key
      · simp [after, same]
      · simp [after, Function.update_of_ne, same]
    | _ => exact congrArg some (funext fun key => by simp [after])
  | _ => rfl

/-- The roll that the questions of a trace lead to. -/
def Roll.of (trace : List Exchange) : Roll :=
  trace.foldl (fun roll exchange => roll.after exchange.call) .blank

/-- The last question of a trace is the last to change the roll. -/
theorem Roll.of_append_singleton (trace : List Exchange) (exchange : Exchange) :
    Roll.of (trace ++ [exchange]) = (Roll.of trace).after exchange.call := by
  simp [Roll.of]

/-- Who is on the roll was let begin, waited for or shut down. -/
theorem Roll.mem_of (key : Nat) (trace : List Exchange) :
    (key ∈ (Roll.of trace).begun ↔ ∃ exchange ∈ trace, exchange.call = .spawnWorker key) ∧
    (key ∈ (Roll.of trace).ended ↔ ∃ exchange ∈ trace, exchange.call = .collectExit key) ∧
    (key ∈ (Roll.of trace).shut ↔ ∃ exchange ∈ trace, exchange.call = .shutdownProducer key) := by
  induction trace using List.reverseRecOn with
  -- The trace is taken apart at its end, where a question adds at most one key to one of the lists.
  | nil => simp [Roll.of, Roll.blank]
  | append_singleton trace exchange ih =>
    obtain ⟨begun, ended, shut⟩ := ih
    obtain ⟨call, reply⟩ := exchange
    rw [Roll.of_append_singleton]
    cases call with
    | spawnWorker other | collectExit other | shutdownProducer other =>
      simp [Roll.after, begun, ended, shut, or_and_right, exists_or, eq_comm]
    | _ => simp [Roll.after, begun, ended, shut, or_and_right, exists_or]

namespace RunState

variable {adaptor : Adaptor} {setting : Setting} {state later : RunState}

/-- What is known of the tasks of an adaptor is known of a run, and the roll is the one of what the
adaptor has asked. -/
theorem Reachable.sound (distinct : (adaptor.sources.map (·.key)).Nodup)
    (reachable : Reachable adaptor setting state) :
    AdaptorTasks.Sound adaptor (fun _ => none) (.of (own .adaptor state.journal)) state.tasks := by
  -- Each step is one of the tasks by themselves, unless the adaptor is stopped.
  induction reachable with
  | start => exact AdaptorTasks.opening_sound distinct (by simp)
  | @step state later reachable step ih =>
    cases step with
    -- What the adaptor asks about no worker, and what it is told of one, change no roll.
    | lead asks aside apart truth =>
      simpa [tasks, goOn, AdaptorTasks.goOn, Roll.of_append_singleton, Deed.occurrence?] using
        ih.supervise asks aside (Setting.handles_after truth)
    | notice member asks begun ended untold =>
      simpa [tasks, goOn, AdaptorTasks.goOn, Roll.of_append_singleton, Deed.occurrence?] using
        ih.supervise asks rfl rfl
    -- A begun worker and a collected exit are entered in the roll.
    | begin member asks =>
      simpa [tasks, assign, AdaptorTasks.assign, Roll.of_append_singleton, Roll.after,
        Deed.occurrence?] using ih.begin member (by simp [Worker.Fresh]) asks
    | collect asks begun ended =>
      simpa [tasks, goOn, AdaptorTasks.goOn, Roll.of_append_singleton, Roll.after, Deed.occurrence?]
        using ih.collect asks begun ended
    -- Workers only change the handles.
    | work works truth =>
      simpa [tasks, assign, AdaptorTasks.assign, Deed.occurrence?] using
        ih.work works (Setting.handles_after truth)
    | panic works =>
      simpa [tasks, assign, AdaptorTasks.assign, Deed.occurrence?] using
        ih.panic works
    | stop => simpa [tasks, Deed.occurrence?] using ih

/-- What the adaptor has asked leads to what it has yet to do. -/
theorem Reachable.led (reachable : Reachable adaptor setting state) :
    adaptor.run.Reaches (own .adaptor state.journal) state.supervisor := by
  -- Only the adaptor itself adds to what it has asked, and each time it goes on with the reply.
  induction reachable with
  | start => exact .start _
  | @step state later reachable step ih =>
    cases step with
    | lead asks | notice _ asks | begin _ asks | collect asks =>
      rw [asks] at ih
      simpa [goOn, assign] using ih.answered _
    | work | panic | stop => simpa [assign] using ih

/-- How far a worker has come, if it has begun: it is the worker of a source, and what it has asked
leads to what it has yet to do, or to what brought it down. -/
def Employs (adaptor : Adaptor) (key : Nat) (trace : List Exchange) : Option Duty → Prop
  | none => trace = []
  | some (.going rest) => ∃ source ∈ adaptor.sources, source.key = key ∧
      (adaptor.workerFor source).run.Reaches trace rest
  | some (.panicked call) => ∃ source ∈ adaptor.sources, source.key = key ∧
      ∃ next, (adaptor.workerFor source).run.Reaches trace (.ask call next)

/-- Whatever the other tasks do, a worker goes its own way. -/
theorem Reachable.employs (distinct : (adaptor.sources.map (·.key)).Nodup)
    (reachable : Reachable adaptor setting state) (key : Nat) :
    Employs adaptor key (own (.worker key) state.journal) (state.workers key) := by
  -- By induction on the steps, of which only those of this worker change anything on either side.
  induction reachable with
  | start => rfl
  | @step state later reachable step ih =>
    cases step with
    -- These are no deeds of a worker.
    | lead | notice | collect | stop => simpa [goOn] using ih
    | @begin source next member asks =>
      by_cases same : key = source.key
      · -- Nobody has worked for this source before.
        subst same
        have absent := (reachable.sound distinct).absent asks
        rw [show state.workers source.key = none from absent] at ih
        have untouched : own (.worker source.key) state.journal = [] := ih
        simp only [assign, own_append, untouched, Function.update_self]
        exact ⟨source, member, rfl, .start _⟩
      · simpa [assign, Function.update_of_ne same] using ih
    | @work worker call next reply works truth =>
      by_cases same : key = worker
      · subst same
        -- What this worker did before leads to where it asks, and the reply leads on from there.
        rw [works] at ih
        obtain ⟨source, member, own, reaches⟩ := ih
        simp only [assign, own_append, own_asked, if_true, own_nil, Function.update_self]
        exact ⟨source, member, own, reaches.answered reply⟩
      · simpa [assign, Function.update_of_ne same, Ne.symm same] using ih
    | @panic worker call next works =>
      by_cases same : key = worker
      · subst same
        -- A panic leaves it where it was, with the question unanswered.
        rw [works] at ih
        obtain ⟨source, member, own, reaches⟩ := ih
        simpa [assign] using ⟨source, member, own, next, reaches⟩
      · simpa [assign, Function.update_of_ne same] using ih

/-- What the adaptor asked, and was told of the setting and of its workers, before it went on. -/
theorem Step.asked_adaptor {exchange : Exchange} (step : Step adaptor state later)
    (grown : later.journal = state.journal ++ [.asked .adaptor exchange]) :
    (∃ next, state.supervisor = .ask exchange.call next ∧ later.supervisor = next exchange.reply) ∧
      state.setting.bears exchange = true ∧
      ∀ reply, exchange = ⟨.nextExit, reply⟩ → ∃ source ∈ adaptor.sources, ∃ duty exit,
        state.workers source.key = some duty ∧ duty.exit? = some exit ∧
        reply = (source.id, toldCode exit) := by
  -- The deed says which steps come into question; for the others the journals differ.
  cases step with
  | lead asks aside apart truth =>
    cases List.append_cancel_left grown
    exact ⟨⟨_, asks, rfl⟩, truth, fun reply same => by cases same; exact absurd rfl apart⟩
  | notice member asks begun ended untold =>
    cases List.append_cancel_left grown
    exact ⟨⟨_, asks, rfl⟩, rfl, fun reply same => by
      cases same; exact ⟨_, member, _, _, begun, ended, rfl⟩⟩
  | begin member asks =>
    cases List.append_cancel_left grown
    exact ⟨⟨_, asks, rfl⟩, rfl, fun reply same => by cases same⟩
  | collect asks begun ended =>
    cases List.append_cancel_left grown
    exact ⟨⟨_, asks, rfl⟩, rfl, fun reply same => by cases same⟩
  | work | panic | stop => cases List.append_cancel_left grown

/-- A worker that was answered was under way. -/
theorem Step.asked_worker {key : Nat} {exchange : Exchange} (step : Step adaptor state later)
    (grown : later.journal = state.journal ++ [.asked (.worker key) exchange]) :
    (∃ next, state.workers key = some (.going (.ask exchange.call next))) ∧
      state.setting.bears exchange = true := by
  -- Only a step of that worker adds such a deed to the journal.
  cases step with
  | work works truth =>
    cases List.append_cancel_left grown
    exact ⟨⟨_, works⟩, truth⟩
  | lead | notice | begin | collect | panic | stop => cases List.append_cancel_left grown

/-- A worker that panicked was under way. -/
theorem Step.panicked_worker {key : Nat} {call : Call} (step : Step adaptor state later)
    (grown : later.journal = state.journal ++ [.panicked key call]) :
    ∃ next, state.workers key = some (.going (.ask call next)) := by
  cases step with
  | panic works =>
    cases List.append_cancel_left grown
    exact ⟨_, works⟩
  | lead | notice | begin | collect | work | stop => cases List.append_cancel_left grown

/-- A worker that has ended stays as it is. -/
theorem Reachable.keeps_ended (distinct : (adaptor.sources.map (·.key)).Nodup)
    (reachable : Reachable adaptor setting state) (step : Step adaptor state later) {key : Nat}
    {duty : Duty} {exit : Option WorkerExit} (works : state.workers key = some duty)
    (ended : duty.exit? = some exit) : later.workers key = some duty := by
  -- Whoever is under way has not ended, so it is somebody else who moves.
  have unmoved : ∀ {other : Nat} {call : Call} {next : call.Reply → Plan WorkerExit},
      state.workers other = some (.going (.ask call next)) → key ≠ other := by
    rintro other call next going rfl
    cases works.symm.trans going
    cases ended
  cases step with
  | lead | notice | collect | stop => exact works
  | @begin source next member asks =>
    -- Whoever has ended has begun, and nobody begins twice.
    have absent := (reachable.sound distinct).absent asks
    have apart : key ≠ source.key := by
      rintro rfl
      cases works.symm.trans absent
    exact (Function.update_of_ne apart ..).trans works
  | work going truth => exact (Function.update_of_ne (unmoved going) ..).trans works
  | panic going => exact (Function.update_of_ne (unmoved going) ..).trans works

/-- Who has begun is there from then on. -/
theorem Step.keeps_present {key : Nat} (step : Step adaptor state later)
    (present : state.workers key ≠ none) : later.workers key ≠ none := by
  have assigned : ∀ {other : Nat} {duty : Duty},
      Function.update state.workers other (some duty) key ≠ none := by
    intro other duty
    -- Duties are only ever assigned, and never taken away.
    by_cases same : key = other
    · simp [same]
    · simpa [Function.update_of_ne same] using present
  cases step with
  | lead | notice | collect | stop => exact present
  | begin | work | panic => exact assigned

/-- Whoever is on the roll of those who have begun is there. -/
theorem Reachable.present (reachable : Reachable adaptor setting state) {key : Nat}
    (begun : key ∈ (Roll.of (own .adaptor state.journal)).begun) : state.workers key ≠ none := by
  -- Nothing puts anybody on this roll but that a worker begins.
  induction reachable with
  | start => cases begun
  | @step state later reachable step ih =>
    have stays := fun listed => step.keeps_present (ih listed)
    cases step with
    | lead asks aside =>
      refine stays ?_
      simpa [goOn, Roll.of_append_singleton, (Roll.after_workers aside _).1] using begun
    | begin member asks =>
      simp only [assign, own_append, own_asked, if_true, own_nil, Roll.of_append_singleton] at begun
      rcases List.mem_append.mp begun with old | new
      · exact stays old
      · cases List.mem_singleton.mp new
        simp [assign]
    | notice | collect =>
      refine stays ?_
      simpa [goOn, Roll.of_append_singleton, Roll.after] using begun
    | work | panic | stop => exact stays (by simpa [assign] using begun)

/-- What the worker of a source has asked leads, through its own plan, to what it has yet to do. -/
theorem Reachable.follows (distinct : (adaptor.sources.map (·.key)).Nodup)
    (reachable : Reachable adaptor setting state) {source : Source}
    (member : source ∈ adaptor.sources) {rest : Plan WorkerExit}
    (works : state.workers source.key = some (.going rest)) :
    (adaptor.workerFor source).run.Reaches (own (.worker source.key) state.journal) rest := by
  have employs := reachable.employs distinct source.key
  rw [works] at employs
  obtain ⟨other, listed, same, reaches⟩ := employs
  -- The keys of sources differ, so that the worker which was found belongs to this very source.
  obtain rfl := List.inj_on_of_nodup_map distinct listed member same
  exact reaches

/-- Whatever the other tasks do, what a worker asks keeps to the rules about the cancellation. -/
theorem Reachable.watched (distinct : (adaptor.sources.map (·.key)).Nodup)
    (reachable : Reachable adaptor setting state) (key : Nat) :
    ∃ check, Passes cancellationCheck.Grants .due (own (.worker key) state.journal) check := by
  -- A worker that has begun has come this far in its plan, and one that has not has asked nothing.
  have employs := reachable.employs distinct key
  have follows : ∀ {source : Source} {rest : Plan WorkerExit},
      (adaptor.workerFor source).run.Reaches (own (.worker key) state.journal) rest →
      ∃ check, Passes cancellationCheck.Grants .due (own (.worker key) state.journal) check := by
    intro source rest reaches
    obtain ⟨check, passes, _⟩ :=
      -- The rules are never broken, so there is a state that they have come to.
      (adaptor.workerFor source).run_observes_cancellationCheck.reaches_of_total
        cancellationCheck_total reaches
    exact ⟨check, passes⟩
  cases works : state.workers key with
  | none =>
    rw [works] at employs
    rw [show own (.worker key) state.journal = [] from employs]
    exact ⟨.due, .start _⟩
  | some duty =>
    rw [works] at employs
    cases duty with
    | going rest =>
      obtain ⟨source, _, _, reaches⟩ := employs
      exact follows reaches
    | panicked call =>
      obtain ⟨source, _, _, next, reaches⟩ := employs
      exact follows reaches

/-- A worker leaves the run as a whole to the adaptor. -/
theorem Reachable.ordinary (distinct : (adaptor.sources.map (·.key)).Nodup)
    (reachable : Reachable adaptor setting state) {key : Nat} {exchange : Exchange}
    (listed : .asked (.worker key) exchange ∈ state.journal) :
    exchange.call.isExecutive = false := by
  obtain ⟨check, passes⟩ := reachable.watched distinct key
  exact passes.forall_mem (fun _ _ _ granted => granted.1.1) exchange (mem_own.mpr listed)

/-- A worker that is under way waits for no other task. -/
theorem Step.exists_of_going {key : Nat} {call : Call} {next : call.Reply → Plan WorkerExit}
    (works : state.workers key = some (.going (.ask call next))) :
    ∃ later, Step adaptor state later ∧
      ∃ reply, later.journal = state.journal ++ [.asked (.worker key) ⟨call, reply⟩] :=
  ⟨_, .work works (state.setting.bears_reply call), _, rfl⟩

/-- One turn, answered in a given way, if the answer is true and the task is not waiting for another
one. -/
def turn? (adaptor : Adaptor) (answer : Setting → (call : Call) → call.Reply) (state : RunState) :
    AdaptorTasks.Turn → Option RunState
  | .adaptor =>
    match state.supervisor with
    | .ask (.spawnWorker key) next =>
      (adaptor.sources.find? (·.key = key)).map fun source =>
        { state with supervisor := next () }.assign source.key
          (.going (adaptor.workerFor source).run) (.asked .adaptor ⟨.spawnWorker source.key, ()⟩)
    | .ask (.collectExit key) next =>
      ((state.workers key).bind (·.exit?)).map fun exit =>
        state.goOn (next exit) ⟨.collectExit key, exit⟩
    | .ask .nextExit next =>
      (adaptor.sources.find? fun source =>
          source.key ∉ state.told && ((state.workers source.key).bind (·.exit?)).isSome).bind
        fun source => ((state.workers source.key).bind (·.exit?)).map fun exit =>
          { state with told := state.told ++ [source.key] }.goOn
            (next (source.id, toldCode exit)) ⟨.nextExit, (source.id, toldCode exit)⟩
    | .ask call next =>
      let reply := answer state.setting call
      if state.setting.bears ⟨call, reply⟩ then
        some ({ state with setting := state.setting.after call }.goOn (next reply) ⟨call, reply⟩)
      else none
    | _ => none
  | .worker key =>
    match state.workers key with
    | some (.going (.ask call next)) =>
      let reply := answer state.setting call
      if state.setting.bears ⟨call, reply⟩ then
        some ({ state with setting := state.setting.after call }.assign key (.going (next reply))
          (.asked (.worker key) ⟨call, reply⟩))
      else none
    | _ => none
  | .panic key =>
    match state.workers key with
    | some (.going (.ask call _)) => some (state.assign key (.panicked call) (.panicked key call))
    | _ => none

/-- A turn is a step. -/
theorem step_of_turn? {answer : Setting → (call : Call) → call.Reply} {turn : AdaptorTasks.Turn}
    (taken : state.turn? adaptor answer turn = some later) : Step adaptor state later := by
  unfold turn? at taken
  cases turn with
  | adaptor =>
    dsimp only at taken
    split at taken
    · rename_i key next asks
      obtain ⟨source, found, rfl⟩ := Option.map_eq_some_iff.mp taken
      obtain rfl : source.key = key := by simpa using List.find?_some found
      -- A source is found by its key, and a worker begins for it.
      exact .begin (List.mem_of_find?_eq_some found) asks
    · rename_i key next asks
      obtain ⟨exit, found, rfl⟩ := Option.map_eq_some_iff.mp taken
      obtain ⟨duty, begun, ended⟩ := Option.bind_eq_some_iff.mp found
      -- The exit of a worker is collected once it has one.
      exact .collect asks begun ended
    · rename_i next asks
      obtain ⟨source, found, told⟩ := Option.bind_eq_some_iff.mp taken
      obtain ⟨exit, exits, rfl⟩ := Option.map_eq_some_iff.mp told
      obtain ⟨duty, begun, ended⟩ := Option.bind_eq_some_iff.mp exits
      -- The first source that has ended and that the adaptor was not told of.
      have untold : source.key ∉ state.told := by
        have matched := List.find?_some found
        simp only [Bool.and_eq_true, decide_eq_true_eq] at matched
        exact matched.1
      exact .notice (List.mem_of_find?_eq_some found) asks begun ended untold
    · -- None of the three questions above, so it is not about a worker.
      rename_i call next notSpawn notCollect notExit asks
      obtain ⟨truth, same⟩ := Option.ite_none_right_eq_some.mp taken
      cases same
      refine .lead asks ?_ ?_ truth
      · cases call with
        | spawnWorker key => exact absurd HEq.rfl (notSpawn key next rfl)
        | collectExit key => exact absurd HEq.rfl (notCollect key next rfl)
        | _ => rfl
      · rintro rfl
        exact absurd HEq.rfl (notExit next rfl)
    · cases taken
  | worker key =>
    dsimp only at taken
    split at taken
    · -- What a worker is answered has to be borne out by the setting.
      rename_i call next works
      obtain ⟨truth, same⟩ := Option.ite_none_right_eq_some.mp taken
      cases same
      exact .work works truth
    · cases taken
  | panic key =>
    dsimp only at taken
    split at taken
    · -- A panic needs nobody's permission.
      rename_i call next works
      cases taken
      exact .panic works
    · cases taken

/-- Turns that can be taken, with something that can be checked when they are over. -/
theorem Reachable.exists_turns (reachable : Reachable adaptor setting state)
    (answer : Setting → (call : Call) → call.Reply) (turns : List AdaptorTasks.Turn)
    (check : RunState → Bool)
    (checked : (turns.foldlM (turn? adaptor answer) state).any check = true) :
    ∃ later, Reachable adaptor setting later ∧ check later = true := by
  obtain ⟨later, taken, holds⟩ := (Option.any_eq_true _ _).mp checked
  -- By induction on the turns, from whatever state they begin in.
  refine ⟨later, ?_, holds⟩
  clear holds checked
  induction turns generalizing state with
  | nil => cases taken; exact reachable
  | cons turn rest ih =>
    obtain ⟨next, first, further⟩ := Option.bind_eq_some_iff.mp taken
    exact ih (reachable.step (step_of_turn? first)) further

end RunState

end BatchFlow
