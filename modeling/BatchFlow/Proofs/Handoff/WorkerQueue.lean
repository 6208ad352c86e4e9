import BatchFlow.Proofs.Adaptor.RepeatedRuns
import BatchFlow.Proofs.Handoff.FeedingQueue

/-! A queue that feeds a worker of an adaptor, over any number of runs in which that worker is not
brought down. The steps of all tasks and of everybody who pushes fall in any order. -/

namespace BatchFlow

open Plan (Exchange)

/-- A plan does not come back to where it was by going on. -/
theorem Plan.next_ne_ask {ρ : Type} {call : Call} {next : call.Reply → Plan ρ}
    (reply : call.Reply) : next reply ≠ .ask call next := by
  -- By induction on the plan, as a plan is no part of itself.
  have grows : ∀ (plan : Plan ρ) (call : Call) (next : call.Reply → Plan ρ) (reply : call.Reply),
      plan = .ask call next → next reply ≠ plan := by
    intro plan
    induction plan with
    | ask own further ih =>
      intro call next reply same again
      cases same
      exact ih reply own further reply again rfl
    | _ => intro call next reply same; cases same
  exact grows _ call next reply rfl

namespace AdaptorTasks

variable {adaptor : Adaptor} {start : Nat → Option Tie} {roll : Roll} {tasks later : AdaptorTasks}
  {source : Source} {occurrence : Occurrence}

/-- Nothing has to be known of the producers of a run. -/
theorem fresh_none : Fresh fun _ => none := fun _ _ same => by cases same

/-- What happens in a run while the worker of a source does not go on: nothing is asked about the
connection of its producer, only the adaptor itself shuts that down, and the worker begins at
most. -/
structure Aside (adaptor : Adaptor) (start : Nat → Option Tie) (source : Source) (roll after : Roll)
    (tasks later : AdaptorTasks) (occurrence : Occurrence) : Prop where
  sound : Sound adaptor start after later
  untied : occurrence.call.tied? ≠ some source.key
  shut : source.key ∈ after.shut → source.key ∈ roll.shut ∨
    occurrence = .exchange ⟨.shutdownProducer source.key, ()⟩
  worker : later.workers source.key = tasks.workers source.key ∨
    tasks.workers source.key = none ∧
      later.workers source.key = some (.going (adaptor.workerFor source).run)

/-- A step in which the worker of a source does not go on keeps what is known of the run, and leaves
that worker alone. -/
theorem Sound.aside (sound : Sound adaptor start roll tasks) (fresh : Fresh start)
    (distinct : (adaptor.sources.map (·.key)).Nodup) (member : source ∈ adaptor.sources)
    (step : Step adaptor tasks later)
    (stays : ∀ rest, tasks.workers source.key = some (.going rest) →
      later.workers source.key = some (.going rest))
    (happened : later.occurrences = tasks.occurrences ++ [occurrence]) :
    ∃ after, Aside adaptor start source roll after tasks later occurrence := by
  -- Each step is one occurrence, so that is the one that happened.
  have only : ∀ {other}, tasks.occurrences ++ [other] = tasks.occurrences ++ [occurrence] →
      other = occurrence := fun same => by simpa using same
  cases step with
  | @supervise call next reply handles asks aside changes =>
    cases only happened
    have last := sound.supervise asks aside changes
    have observes := sound.supervised
    rw [asks] at observes
    refine ⟨_, last, ?_, fun shut => ?_, .inl rfl⟩
    · simp [Occurrence.call, observes.1.1]
    · cases call with
      | shutdownProducer key =>
        rcases List.mem_append.mp shut with old | new
        · exact .inl old
        · cases List.mem_singleton.mp new
          exact .inr rfl
      | _ => exact .inl shut
  | @begin other next listed asks =>
    cases only happened
    refine ⟨_, sound.begin listed (fresh _) asks, by simp [Occurrence.call, Call.tied?], .inl, ?_⟩
    rcases eq_or_ne source.key other.key with same | apart
    · -- No other source has the key of this one.
      cases List.inj_on_of_nodup_map distinct member listed same
      exact .inr ⟨sound.absent asks, workers_assign_self ..⟩
    · exact .inl (workers_assign_of_ne apart ..)
  | collect asks begun ended =>
    cases only happened
    exact ⟨_, sound.collect asks begun ended, by simp [Occurrence.call, Call.tied?], .inl, .inl rfl⟩
  | @work key call next reply handles works changes =>
    cases only happened
    -- It is another worker that goes on, which asks about its own producer at most.
    have apart : source.key ≠ key := by
      rintro rfl
      have same := (workers_assign_self ..).symm.trans (stays _ works)
      exact Plan.next_ne_ask reply (by simpa using same)
    refine ⟨_, sound.work works changes, fun tied => apart ?_, .inl,
      .inl (workers_assign_of_ne apart ..)⟩
    exact sound.affects works _ tied
  | @panic key call next works =>
    cases only happened
    -- Nor is it this worker that is brought down.
    have apart : source.key ≠ key := by
      rintro rfl
      have same := (workers_assign_self ..).symm.trans (stays _ works)
      cases same
    refine ⟨_, sound.panic works, fun tied => apart ?_, .inl,
      .inl (workers_assign_of_ne apart ..)⟩
    exact sound.affects works _ tied

end AdaptorTasks

namespace Handoff

/-- What becomes of a queue in use when something happens. A panic elsewhere is nothing to it. -/
inductive Inlet.Heeds (inlet : Inlet) : Inbox → Occurrence → Inbox → Prop where
  | exchange {inbox later : Inbox} {asked : Exchange} (treats : inlet.Treats inbox asked later) :
    Heeds inlet inbox (.exchange asked) later
  | panic {inbox : Inbox} {producer : Nat} {call : Call} :
    Heeds inlet inbox (.panic producer call) inbox

/-- What the worker of a queue need not mind. -/
structure Inlet.Undisturbed (inlet : Inlet) (inbox later : Inbox) (yielded : List (List Pending)) :
    Prop where
  sound : inlet.Sound later yielded
  held : inbox.held = [] → later.held = []
  polling : later.polling = inbox.polling
  shut : inbox.traffic.Shut → later.traffic.Shut ∧ later.traffic.accepted = inbox.traffic.accepted

/-- What is not about the connection of its producer does not disturb a worker. -/
theorem Inlet.Heeds.undisturbed {inlet : Inlet} {inbox later : Inbox} {occurrence : Occurrence}
    {yielded : List (List Pending)} (heeds : inlet.Heeds inbox occurrence later)
    (sound : inlet.Sound inbox yielded) (untied : occurrence.call.tied? ≠ some inlet.source.key) :
    inlet.Undisturbed inbox later yielded := by
  cases heeds with
  | panic => exact ⟨sound, id, rfl, fun shut => ⟨shut, rfl⟩⟩
  | @exchange _ asked treats =>
    -- A poll and a connection are tied to the producer.
    have unpolled : ∀ timeout, asked.call ≠ .poll inlet.source.key timeout :=
      fun timeout same => untied (congrArg Call.tied? same)
    have unconnected : asked.call ≠ .connectProducer inlet.source.key :=
      fun same => untied (congrArg Call.tied? same)
    obtain ⟨more, last, ⟨⟨timeout, same⟩, _⟩ | ⟨_, rfl⟩⟩ := treats.sound sound
    · exact absurd same (unpolled timeout)
    · rw [List.append_nil] at last
      exact ⟨last, treats.held_subset unpolled, treats.polling_eq unpolled,
        fun shut => treats.shut sound shut unconnected⟩

/-- An adaptor during a run, with a queue that feeds one of its workers. -/
structure FedAdaptor where
  tasks : AdaptorTasks
  inbox : Inbox
  /-- What the worker of the queue has gone through, in this run and in those before. -/
  record : List Exchange

namespace FedAdaptor

/-- One step of anybody. The worker of the queue is answered as the queue is treated, and is never
brought down. -/
inductive Step (adaptor : Adaptor) (inlet : Inlet) : FedAdaptor → FedAdaptor → Prop where
  /-- Somebody pushes or closes, begins to or gives it up. -/
  | outside {fed : FedAdaptor} {traffic : Traffic} (outside : fed.inbox.traffic.Outside traffic) :
    Step adaptor inlet fed { fed with inbox := { fed.inbox with traffic } }
  /-- The worker begins to poll the queue. -/
  | request {fed : FedAdaptor} {timeout : Duration} {next : Polled → Plan WorkerExit}
      (asks : fed.tasks.workers inlet.source.key =
        some (.going (.ask (.poll inlet.source.key timeout) next)))
      (idle : fed.inbox.polling = false) :
    Step adaptor inlet fed
      { fed with
        inbox :=
          { fed.inbox with
            traffic :=
              { fed.inbox.traffic with
                polls := fed.inbox.traffic.polls ++ [⟨inlet.size, .starting, true⟩] }
            polling := true } }
  /-- The poll under way comes further. -/
  | poll {fed : FedAdaptor} {before : List Poll} {poll : Poll} {queue : Queue} {poller : Poller}
      (polling : fed.inbox.polling = true) (here : fed.inbox.traffic.polls = before ++ [poll])
      (stepped : poll.poller.step? poll.most fed.inbox.traffic.queue = some (queue, poller)) :
    Step adaptor inlet fed
      { fed with
        inbox :=
          { fed.inbox with
            traffic :=
              { fed.inbox.traffic with
                queue
                polls := before ++ [{ poll with poller }]
                departed := fed.inbox.traffic.departed ++ poller.taken.map .handed } } }
  /-- The worker of the queue goes on. -/
  | work {fed : FedAdaptor} {call : Call} {next : call.Reply → Plan WorkerExit} {reply : call.Reply}
      {handles : Nat → Lifecycle} {inbox : Inbox}
      (works : fed.tasks.workers inlet.source.key = some (.going (.ask call next)))
      (changes : handlesAfter? fed.tasks.handles ⟨call, reply⟩ = some handles)
      (treats : inlet.Treats fed.inbox ⟨call, reply⟩ inbox) :
    Step adaptor inlet fed
      ⟨{ fed.tasks with handles }.assign inlet.source.key (.going (next reply))
        (.exchange ⟨call, reply⟩), inbox, fed.record ++ [⟨call, reply⟩]⟩
  /-- The worker of the queue begins, or another task goes on or is brought down. -/
  | aside {fed : FedAdaptor} {tasks : AdaptorTasks} {occurrence : Occurrence} {inbox : Inbox}
      (step : AdaptorTasks.Step adaptor fed.tasks tasks)
      (stays : ∀ rest, fed.tasks.workers inlet.source.key = some (.going rest) →
        tasks.workers inlet.source.key = some (.going rest))
      (happened : tasks.occurrences = fed.tasks.occurrences ++ [occurrence])
      (heeds : inlet.Heeds fed.inbox occurrence inbox) :
    Step adaptor inlet fed { fed with tasks, inbox }

end FedAdaptor

/-- One run after the other with a queue that was new at first, on producers that were stopped at
first. -/
inductive QueueHistory (adaptor : Adaptor) (inlet : Inlet) : FedAdaptor → Prop where
  | start (capacity : Nat) :
    QueueHistory adaptor inlet
      ⟨.opening adaptor fun _ => .stopped, ⟨.ofCapacity capacity, [], false⟩, []⟩
  | step {fed later : FedAdaptor} (history : QueueHistory adaptor inlet fed)
      (step : FedAdaptor.Step adaptor inlet fed later) : QueueHistory adaptor inlet later
  | again {fed : FedAdaptor} {result : Except Refusal Report}
      (history : QueueHistory adaptor inlet fed)
      (returned : fed.tasks.supervisor = .done result) :
    QueueHistory adaptor inlet { fed with tasks := .opening adaptor fed.tasks.handles }

namespace FedAdaptor

/-- Where the worker of a queue is in what it has gone through. -/
def Placed (worker : Worker) (fed : FedAdaptor) : Option Duty → Prop
  | none => (∃ batches, worker.Rounds fed.record batches) ∧ fed.inbox.polling = false
  | some (.going rest) =>
    (∃ past batches present, fed.record = past ++ present ∧ worker.Rounds past batches ∧
      worker.run.Reaches present rest) ∧
    (fed.inbox.polling = true → ∃ timeout next, rest = .ask (.poll worker.source.key timeout) next)
  | some (.panicked _) => False

/-- What holds of a queue and the adaptor that it feeds, when these batches were yielded. -/
structure Sound (adaptor : Adaptor) (inlet : Inlet) (roll : Roll) (yielded : List (List Pending))
    (fed : FedAdaptor) : Prop where
  -- Nothing has to be known of the producers to know who asks for what.
  tasks : AdaptorTasks.Sound adaptor (fun _ => none) roll fed.tasks
  inbox : inlet.Sound fed.inbox yielded
  yields : yields fed.record = yielded.map (·.map (·.item))
  faithful : inlet.transacted = true → ∀ exchange ∈ fed.record, inlet.Faithful exchange
  held : inlet.holding fed.record = true ∨ fed.inbox.held = []
  placed : fed.Placed (adaptor.workerFor inlet.source) (fed.tasks.workers inlet.source.key)
  shut : inlet.source.key ∈ roll.shut → fed.inbox.traffic.Shut

variable {adaptor : Adaptor} {inlet : Inlet} {roll : Roll} {yielded : List (List Pending)}
  {fed later : FedAdaptor}

/-- Where a worker is depends on its record, and on whether it polls. -/
theorem Placed.elsewhere {worker : Worker} {duty : Option Duty} {tasks : AdaptorTasks}
    {inbox : Inbox} (placed : fed.Placed worker duty)
    (polling : inbox.polling = fed.inbox.polling) :
    Placed worker ⟨tasks, inbox, fed.record⟩ duty := by
  -- Before it begins a worker polls nothing, and after a panic it does not matter.
  cases duty with
  | none => exact ⟨placed.1, polling.trans placed.2⟩
  | some duty =>
    cases duty with
    | going rest => exact ⟨placed.1, fun polls => placed.2 (polling.symm.trans polls)⟩
    | panicked call => exact placed

/-- A queue is not shut down while its worker still goes on. -/
theorem Sound.not_shut {call : Call} {next : call.Reply → Plan WorkerExit}
    (sound : fed.Sound adaptor inlet roll yielded)
    (works : fed.tasks.workers inlet.source.key = some (.going (.ask call next))) :
    inlet.source.key ∉ roll.shut := fun shut =>
  sound.tasks.not_ended works (fun _ same => by cases same) (sound.tasks.shut _ shut)

/-- Somebody pushes or closes, or the poll under way comes further. -/
theorem Sound.stir {inbox : Inbox} (sound : fed.Sound adaptor inlet roll yielded)
    (last : inlet.Sound inbox yielded) (held : inbox.held = fed.inbox.held)
    (placed : Placed (adaptor.workerFor inlet.source) { fed with inbox }
      (fed.tasks.workers inlet.source.key))
    (shut : inlet.source.key ∈ roll.shut → inbox.traffic.Shut) :
    Sound adaptor inlet roll yielded { fed with inbox } where
  tasks := sound.tasks
  inbox := last
  yields := sound.yields
  faithful := sound.faithful
  held := by
    show _ ∨ inbox.held = []
    rw [held]
    exact sound.held
  placed := placed
  shut := shut

/-- A worker that polls is at its poll. -/
theorem Sound.at_poll (sound : fed.Sound adaptor inlet roll yielded)
    (polling : fed.inbox.polling = true) : ∃ timeout next,
      fed.tasks.workers inlet.source.key =
        some (.going (.ask (.poll inlet.source.key timeout) next)) := by
  have placed := sound.placed
  -- It has begun, it was not brought down, and of where it can be only the poll is left.
  cases works : fed.tasks.workers inlet.source.key with
  | none =>
    rw [works] at placed
    exact absurd polling (by simp [placed.2])
  | some duty =>
    rw [works] at placed
    cases duty with
    | panicked call => exact placed.elim
    | going rest =>
      obtain ⟨timeout, next, rfl⟩ := placed.2 polling
      exact ⟨timeout, next, rfl⟩

/-- The worker of the queue goes on. -/
theorem Sound.work {call : Call} {next : call.Reply → Plan WorkerExit} {reply : call.Reply}
    {handles : Nat → Lifecycle} {inbox : Inbox} (sound : fed.Sound adaptor inlet roll yielded)
    (works : fed.tasks.workers inlet.source.key = some (.going (.ask call next)))
    (changes : handlesAfter? fed.tasks.handles ⟨call, reply⟩ = some handles)
    (treats : inlet.Treats fed.inbox ⟨call, reply⟩ inbox) :
    ∃ yielded, Sound adaptor inlet roll yielded
      ⟨{ fed.tasks with handles }.assign inlet.source.key (.going (next reply))
        (.exchange ⟨call, reply⟩), inbox, fed.record ++ [⟨call, reply⟩]⟩ := by
  -- The queue is sound after the exchange, and has yielded what the exchange shows.
  obtain ⟨more, last, yields⟩ := treats.sound sound.inbox
  have placed := sound.placed
  rw [works] at placed
  -- The worker is in the middle of its plan.
  obtain ⟨⟨past, batches, present, split, rounds, reaches⟩, polls⟩ := placed
  refine ⟨yielded ++ more, sound.tasks.work works changes, last, ?_, fun transacted => ?_, ?_, ?_,
    fun shut => absurd shut (sound.not_shut works)⟩
  · -- A worker polls nobody but its own producer.
    rw [yields_append, sound.yields, List.map_append]
    refine congrArg (yielded.map (·.map (·.item)) ++ ·) ?_
    rcases yields with ⟨_, same⟩ | ⟨apart, rfl⟩
    · exact same
    · cases call with
      | poll key timeout =>
        exact absurd (congrArg (Call.poll · timeout) (sound.tasks.affects works key rfl))
          (apart timeout)
      | _ => rfl
  · -- The record has one exchange more, which is as faithful as the queue that treats it.
    exact List.forall_mem_append.mpr ⟨sound.faithful transacted,
      List.forall_mem_singleton.mpr (treats.faithful transacted)⟩
  · rw [Inlet.holding, List.foldl_append]
    exact treats.released sound.inbox sound.held
  · -- The worker goes on in its round with one exchange more, and no poll is under way then.
    rw [AdaptorTasks.workers_assign_self]
    refine ⟨⟨past, batches, present ++ [⟨call, reply⟩], by simp [split], rounds, ?_⟩, ?_⟩
    · exact reaches.append (.ask call next reply [] _ (.start _))
    · have idle := treats.idle fun polling => by
        obtain ⟨timeout, _, same⟩ := polls polling
        cases same
        exact ⟨timeout, rfl⟩
      exact fun polling => absurd polling (by simp [idle])

/-- Whatever happens elsewhere, it is still known where the queue and its worker stand. -/
theorem Sound.aside {tasks : AdaptorTasks} {after : Roll} {occurrence : Occurrence} {inbox : Inbox}
    (sound : fed.Sound adaptor inlet roll yielded)
    (aside : AdaptorTasks.Aside adaptor (fun _ => none) inlet.source roll after fed.tasks tasks
      occurrence)
    (heeds : inlet.Heeds fed.inbox occurrence inbox) :
    Sound adaptor inlet after yielded { fed with tasks, inbox } := by
  have undisturbed := heeds.undisturbed sound.inbox aside.untied
  refine ⟨aside.sound, undisturbed.sound, sound.yields, sound.faithful,
    sound.held.imp_right undisturbed.held, ?_, fun listed => ?_⟩
  · have placed := sound.placed
    -- The worker is where it was, or has just begun.
    rcases aside.worker with same | ⟨absent, begun⟩
    · rw [same]
      exact placed.elsewhere undisturbed.polling
    · -- The worker begins with nothing to its record in this run.
      rw [absent] at placed
      obtain ⟨⟨batches, rounds⟩, idle⟩ := placed
      rw [begun]
      refine ⟨⟨fed.record, batches, [], by simp, rounds, .start _⟩, fun polls => ?_⟩
      exact absurd (undisturbed.polling.symm.trans polls) (by simp [idle])
  · -- A producer is shut down once, and a queue that was shut before is not disturbed.
    rcases aside.shut listed with before | rfl
    · exact (undisturbed.shut (sound.shut before)).1
    · cases heeds with
      | exchange treats => exact treats.shuts sound.inbox

/-- Whoever takes a step, what holds of the queue still does. -/
theorem Sound.step (sound : fed.Sound adaptor inlet roll yielded)
    (distinct : (adaptor.sources.map (·.key)).Nodup) (member : inlet.source ∈ adaptor.sources)
    (step : Step adaptor inlet fed later) :
    ∃ roll yielded, later.Sound adaptor inlet roll yielded := by
  cases step with
  | outside outside =>
    -- Whoever pushes or closes takes nothing out of the queue.
    have kept := outside.kept sound.inbox.composed
    have last := sound.inbox.keep (sound.inbox.traffic.move outside.moved) kept
    exact ⟨roll, yielded, sound.stir last rfl (sound.placed.elsewhere rfl)
      fun listed => (kept.shut (sound.shut listed)).1⟩
  | @request timeout next asks idle =>
    refine ⟨roll, yielded, sound.stir (sound.inbox.request idle) rfl ?_
      fun listed => absurd listed (sound.not_shut asks)⟩
    have placed := sound.placed
    rw [asks] at placed ⊢
    exact ⟨placed.1, fun _ => ⟨timeout, next, rfl⟩⟩
  | poll polling here stepped =>
    -- A queue that is polled has not been shut down.
    obtain ⟨timeout, next, asks⟩ := sound.at_poll polling
    exact ⟨roll, yielded, sound.stir (sound.inbox.poll polling here stepped) rfl
      (sound.placed.elsewhere rfl) fun listed => absurd listed (sound.not_shut asks)⟩
  | work works changes treats => exact ⟨roll, sound.work works changes treats⟩
  | aside step stays happened heeds =>
    obtain ⟨after, aside⟩ :=
      sound.tasks.aside AdaptorTasks.fresh_none distinct member step stays happened
    exact ⟨after, yielded, sound.aside aside heeds⟩

/-- When a run is over, the worker of the queue has gone through all its rounds. -/
theorem Sound.rounds {result : Except Refusal Report}
    (sound : fed.Sound adaptor inlet roll yielded)
    (returned : fed.tasks.supervisor = .done result) :
    (adaptor.workerFor inlet.source).Rounds fed.record (yielded.map (·.map (·.item))) ∧
      fed.inbox.polling = false := by
  -- What a worker has routed is what the queue has yielded.
  have whole : ∀ {batches}, (adaptor.workerFor inlet.source).Rounds fed.record batches →
      (adaptor.workerFor inlet.source).Rounds fed.record (yielded.map (·.map (·.item))) := by
    intro batches rounds
    rwa [← sound.yields, rounds.yields_eq]
  have placed := sound.placed
  cases works : fed.tasks.workers inlet.source.key with
  | none =>
    rw [works] at placed
    exact ⟨whole placed.1.choose_spec, placed.2⟩
  | some duty =>
    obtain ⟨exit, ended⟩ := sound.tasks.dismissed returned inlet.source.key duty works
    rw [works] at placed
    cases duty with
    | panicked call => exact placed.elim
    | going rest =>
      cases rest with
      | done exit =>
        -- This run adds its rounds to those before it.
        obtain ⟨⟨past, batches, present, split, rounds, reaches⟩, polls⟩ := placed
        have runs := reaches.runs (.done exit)
        rw [List.append_nil] at runs
        obtain ⟨further, more⟩ := Worker.run_inRounds _ _ _ runs
        refine ⟨whole (split ▸ rounds.append more), Bool.eq_false_iff.mpr fun polling => ?_⟩
        obtain ⟨_, _, same⟩ := polls polling
        cases same
      | _ => cases ended

end FedAdaptor

/-- At every moment of every run, what is known of the queue and of its worker holds. -/
theorem QueueHistory.sound {adaptor : Adaptor} {inlet : Inlet} {fed : FedAdaptor}
    (history : QueueHistory adaptor inlet fed) (distinct : (adaptor.sources.map (·.key)).Nodup)
    (member : inlet.source ∈ adaptor.sources) :
    ∃ roll yielded, fed.Sound adaptor inlet roll yielded := by
  have opening : ∀ handles, AdaptorTasks.Sound adaptor (fun _ => none) .blank
      (.opening adaptor handles) :=
    fun handles => AdaptorTasks.opening_sound distinct fun _ _ same => by cases same
  -- The induction is on the history: a run begins as the one before it left the queue.
  induction history with
  | start capacity =>
    exact ⟨.blank, [], opening _, .ofCapacity capacity, rfl, by simp, .inr rfl,
      ⟨⟨[], .done⟩, rfl⟩, by simp [Roll.blank]⟩
  | step history step ih =>
    obtain ⟨roll, yielded, sound⟩ := ih
    exact sound.step distinct member step
  | again history returned ih =>
    obtain ⟨roll, yielded, sound⟩ := ih
    obtain ⟨rounds, idle⟩ := sound.rounds returned
    exact ⟨.blank, yielded, opening _, sound.inbox, sound.yields, sound.faithful, sound.held,
      ⟨⟨_, rounds⟩, idle⟩, by simp [Roll.blank]⟩

end Handoff

end BatchFlow
