import BatchFlow.Proofs.Handoff.WorkerQueue

/-! The tasks around a queue take their steps one after another, and its producer does what it is
asked with nobody coming between. That is one of the schedules that the history of a queue allows.
-/

namespace BatchFlow

open Plan (Exchange)

namespace AdaptorTasks

variable {adaptor : Adaptor} {tasks later : AdaptorTasks}

/-- With every step, one thing happens. -/
theorem Step.happens (step : Step adaptor tasks later) :
    ∃ occurrence, later.occurrences = tasks.occurrences ++ [occurrence] := by
  cases step <;> exact ⟨_, rfl⟩

/-- In its own turn, the adaptor leaves each worker as it is, unless it has it begin. -/
theorem workers_of_turn? (taken : tasks.turn? adaptor .adaptor = some later) (key : Nat) :
    later.workers key = tasks.workers key ∨
      ∃ next, tasks.supervisor = .ask (.spawnWorker key) next := by
  dsimp only [turn?] at taken
  split at taken
  · -- The worker that begins is the only one to change.
    rename_i own next asks
    obtain ⟨source, found, rfl⟩ := Option.map_eq_some_iff.mp taken
    obtain rfl : source.key = own := by simpa using List.find?_some found
    rcases eq_or_ne key source.key with rfl | apart
    · exact .inr ⟨next, asks⟩
    · exact .inl (workers_assign_of_ne apart ..)
  · obtain ⟨exit, found, rfl⟩ := Option.map_eq_some_iff.mp taken
    exact .inl rfl
  · obtain ⟨handles, changes, rfl⟩ := Option.map_eq_some_iff.mp taken
    exact .inl rfl
  · cases taken

end AdaptorTasks

namespace Handoff

namespace Traffic

variable {traffic later : Traffic}

/-- What a call comes to that nobody comes between. -/
def performAll (traffic : Traffic) : List Chore → Traffic
  | [] => traffic
  | chore :: rest =>
    let taken := (chore.perform traffic.queue).2
    performAll
      { traffic.afterChore chore with
        queue := (traffic.afterChore chore).queue.settleAll (.error .closed) (taken.map (·.ack)) }
      rest

/-- Several items are refused one after another. -/
theorem performs_refusals {taken : List Pending} {chores : List Chore}
    (rest : Performs chores
      { traffic with queue := traffic.queue.settleAll (.error .closed) (taken.map (·.ack)) }
      later) :
    Performs (Chore.remaining taken chores) traffic later := by
  -- By induction on the items, of which the first is refused by a chore of its own.
  induction taken generalizing traffic with
  | nil => exact rest
  | cons pending others ih =>
    refine .chore ?_
    -- To refuse an item takes nothing more away.
    have same : traffic.afterChore (.refuse pending.ack) =
        { traffic with queue := traffic.queue.settle (.error .closed) pending.ack } := by
      simp [afterChore, Chore.perform]
    rw [same]
    exact ih rest

/-- To do several things in a row with nobody coming between is one way of doing them. -/
theorem performs_performAll (traffic : Traffic) (chores : List Chore) :
    Performs chores traffic (traffic.performAll chores) := by
  induction chores generalizing traffic with
  | nil => exact .done traffic
  | cons chore rest ih => exact .chore (performs_refusals (ih _))

/-- Suspending the queue in one go takes away all that is queued. -/
theorem performAll_suspending (traffic : Traffic) :
    traffic.performAll Chore.suspending =
      { traffic with
        queue := traffic.queue.suspend
        departed := traffic.departed ++ traffic.queue.items.map .withdrawn } := by
  simp [performAll, Chore.suspending, afterChore, Chore.perform, Queue.suspend, Queue.markSuspended,
    Queue.wakeEverybody, Queue.settleAll]

/-- Resuming the queue in one go is the one thing that it comes to. -/
theorem performAll_resuming (traffic : Traffic) :
    traffic.performAll Chore.resuming = { traffic with queue := traffic.queue.resume } := by
  simp [performAll, Chore.resuming, afterChore, Chore.perform, Queue.settleAll]

end Traffic

open Traffic (hands_settleAll performs_performAll)

/-- The queue in use once its producer has become this. -/
def Inbox.following (inbox : Inbox) (producer : QueueProducer) : Inbox :=
  { inbox with traffic.queue := producer.queue, held := producer.held }

namespace Inlet

variable {inlet : Inlet} {inbox later : Inbox}

instance (call : Call) : Decidable (inlet.Concerns call) := by
  cases call <;> unfold Concerns <;> infer_instance

/-- What the latest poll of a queue yields, and what its producer makes of the queue. A poll that
was not begun is spared, and one that is under way yields nothing yet. -/
def handOver? (inlet : Inlet) (inbox : Inbox) : Option (Polled × Inbox) :=
  if inbox.polling then
    match inbox.traffic.polls.getLast? with
    | some ⟨_, .finished [], _⟩ => some (.nothing, { inbox with polling := false })
    | some ⟨_, .finished batch, _⟩ =>
      some (.batch (batch.map (·.item)),
        { inbox.following ((inbox.producer inlet).receive batch) with polling := false })
    | _ => none
  else some (.cancelled, inbox)

/-- What the producer over a queue answers, and what becomes of the queue if nobody comes
between. -/
def attend? (inlet : Inlet) (inbox : Inbox) : (call : Call) → Option (call.Reply × Inbox)
  | .producerResource _ => some ((inbox.producer inlet).resource?, inbox)
  | .beginWork _ => some (.ok (), inbox)
  | .commitWork _ => some (.ok (), inbox.following (inbox.producer inlet).commit)
  | .rollbackWork _ cause =>
    some (.ok (), inbox.following ((inbox.producer inlet).rollback cause))
  | .connectProducer _ => some (.ok (), inbox.following (inbox.producer inlet).connect)
  | .shutdownProducer _ =>
    let withdrawn := inbox.traffic.queue.items.map .withdrawn
    some ((), { inbox.following (inbox.producer inlet).shutdown with
      traffic.departed := inbox.traffic.departed ++ withdrawn })
  | .poll .. => inlet.handOver? inbox
  | _ => none

/-- What becomes of a batch is decided as its producer decides it. -/
theorem following_receive (batch : List Pending) :
    inbox.following ((inbox.producer inlet).receive batch) =
      { inbox with
        traffic.queue := inbox.traffic.queue.settleAll (.ok ()) (inlet.passed batch)
        held := inbox.held ++ inlet.kept batch } := by
  -- Transacted, they are held, and otherwise they are given at once.
  cases transacted : inlet.transacted <;>
    simp [Inbox.following, Inbox.producer, QueueProducer.receive, passed, kept, transacted,
      Queue.settleAll]

/-- What the latest poll yields is what the queue yields when it is treated so. -/
theorem treats_of_handOver? {polled : Polled} {timeout : Duration}
    (handed : inlet.handOver? inbox = some (polled, later)) :
    inlet.Treats inbox ⟨.poll inlet.source.key timeout, polled⟩ later := by
  unfold handOver? at handed
  split at handed
  · rename_i polling
    split at handed
    · -- The poll found nothing, and is over.
      rename_i last
      cases handed
      obtain ⟨before, here⟩ := List.getLast?_eq_some_iff.mp last
      exact .nothing polling here rfl
    · rename_i batch _ filled last
      cases handed
      obtain ⟨before, here⟩ := List.getLast?_eq_some_iff.mp last
      rw [following_receive]
      exact .yield polling here rfl filled (hands_settleAll ..)
    · cases handed
  · rename_i idle
    cases handed
    exact .spared (Bool.eq_false_iff.mpr idle)

/-- That is one way in which the queue can be treated. -/
theorem treats_of_attend? {call : Call} {reply : call.Reply} (concerns : inlet.Concerns call)
    (attended : inlet.attend? inbox call = some (reply, later)) :
    inlet.Treats inbox ⟨call, reply⟩ later := by
  -- The three that the resource is for come first, and then those that the producer is for.
  cases call with
  | producerResource key =>
    cases attended
    cases concerns
    exact .offer inbox
  | beginWork own =>
    cases attended
    exact .begin inbox concerns.1 concerns.2
  | commitWork own =>
    -- All that is held is given in a row.
    cases attended
    exact .commit concerns.1 concerns.2 (hands_settleAll ..)
  | rollbackWork own cause =>
    cases attended
    exact .rollback concerns.1 concerns.2 (hands_settleAll ..)
  | connectProducer key =>
    cases attended
    cases concerns
    -- To connect the queue is to resume it, and to shut it down is to suspend it.
    exact .connect (Traffic.performAll_resuming _ ▸ performs_performAll ..)
  | shutdownProducer key =>
    cases attended
    cases concerns
    exact .shutdown (Traffic.performAll_suspending _ ▸ performs_performAll ..)
  | poll key timeout =>
    cases concerns
    exact treats_of_handOver? attended
  -- Nothing else concerns the queue.
  | _ => cases concerns

/-- What is answered to a question, and what becomes of the queue, if nobody comes between. What the
queue is not concerned with is answered otherwise. -/
def serve? (inlet : Inlet) (inbox : Inbox) (otherwise : (call : Call) → call.Reply) (call : Call) :
    Option (call.Reply × Inbox) :=
  if inlet.Concerns call then inlet.attend? inbox call else some (otherwise call, inbox)

/-- What is answered to any question is one way in which the queue can be treated. -/
theorem treats_of_serve? {otherwise : (call : Call) → call.Reply} {call : Call} {reply : call.Reply}
    (served : inlet.serve? inbox otherwise call = some (reply, later)) :
    inlet.Treats inbox ⟨call, reply⟩ later := by
  unfold serve? at served
  split at served
  · exact treats_of_attend? ‹_› served
  · cases served
    exact .other ‹_›

/-- What becomes of the queue when the adaptor itself asks for something. -/
def heed? (inlet : Inlet) (inbox : Inbox) : Occurrence → Option Inbox
  | .exchange ⟨.shutdownProducer key, _⟩ =>
    (inlet.serve? inbox Plan.uneventful (.shutdownProducer key)).map (·.2)
  | .exchange ⟨call, _⟩ => if inlet.Concerns call then none else some inbox
  | .panic .. => some inbox

/-- What becomes of the queue then is one way in which it can heed the adaptor. -/
theorem heeds_of_heed? {occurrence : Occurrence}
    (heeded : inlet.heed? inbox occurrence = some later) :
    inlet.Heeds inbox occurrence later := by
  unfold heed? at heeded
  -- Exchanges that are not with the producer change nothing about the queue.
  split at heeded
  · obtain ⟨⟨reply, inbox⟩, served, rfl⟩ := Option.map_eq_some_iff.mp heeded
    exact .exchange (treats_of_serve? served)
  · split at heeded
    · cases heeded
    · cases heeded
      exact .exchange (.other ‹_›)
  · cases heeded
    exact .panic

end Inlet

/-- Whoever came last to push goes on. -/
def Traffic.push? (traffic : Traffic) : Option Traffic :=
  (traffic.pushes.getLast?.filter (·.present)).bind fun push =>
    (push.pusher.step? traffic.queue).map fun (queue, pusher) =>
      { traffic with
        queue
        pushes := traffic.pushes.dropLast ++ [push.advance pusher]
        accepted := traffic.accepted ++ pusher.queued push.item }

/-- Whoever came last to push makes a move that leaves polls and orders alone. -/
theorem Traffic.move_of_push? {traffic later : Traffic} (pushed : traffic.push? = some later) :
    traffic.Move later ∧ later.polls = traffic.polls ∧ later.orders = traffic.orders := by
  obtain ⟨push, chosen, goesOn⟩ := Option.bind_eq_some_iff.mp pushed
  obtain ⟨last, present⟩ := Option.filter_eq_some_iff.mp chosen
  obtain ⟨⟨queue, pusher⟩, stepped, rfl⟩ := Option.map_eq_some_iff.mp goesOn
  obtain ⟨before, here⟩ := List.getLast?_eq_some_iff.mp last
  -- The latest caller is the last one of the list.
  refine ⟨?_, rfl, rfl⟩
  rw [here, List.dropLast_concat]
  exact .push traffic before [] push queue pusher here present stepped

/-- So it is a move of somebody outside, where nothing but closings are ordered. -/
theorem Traffic.outside_of_push? {traffic later : Traffic} (calm : traffic.Calm)
    (pushed : traffic.push? = some later) : traffic.Outside later := by
  obtain ⟨moved, polls, orders⟩ := move_of_push? pushed
  exact ⟨moved, polls, fun order listed => calm order (orders ▸ listed)⟩

/-- The poll under way comes further. -/
def Inbox.poll? (inbox : Inbox) : Option Inbox :=
  if inbox.polling then
    inbox.traffic.polls.getLast?.bind fun poll =>
      (poll.poller.step? poll.most inbox.traffic.queue).map fun (queue, poller) =>
        { inbox with
          traffic :=
            { inbox.traffic with
              queue
              polls := inbox.traffic.polls.dropLast ++ [{ poll with poller }]
              departed := inbox.traffic.departed ++ poller.taken.map .handed } }
  else none

namespace FedAdaptor

/-- Whose turn it is. -/
inductive Turn where
  /-- Somebody comes to push an item. -/
  | arrive (item : Item)
  /-- Whoever came last to push goes on. -/
  | push
  /-- The worker of the queue begins to poll it. -/
  | request
  /-- The poll under way comes further. -/
  | poll
  | worker
  | adaptor

/-- One turn, if the task is not waiting for another one. -/
def turn? (adaptor : Adaptor) (inlet : Inlet) (fed : FedAdaptor) : Turn → Option FedAdaptor
  | .arrive item =>
    some { fed with
      inbox.traffic.pushes := fed.inbox.traffic.pushes ++ [⟨item, .arriving item, none, true⟩] }
  | .push => fed.inbox.traffic.push?.map fun traffic => { fed with inbox.traffic := traffic }
  | .request =>
    match fed.tasks.workers inlet.source.key with
    | some (.going (.ask (.poll key _) _)) =>
      if key = inlet.source.key ∧ fed.inbox.polling = false then
        some { fed with
          inbox :=
            { fed.inbox with
              traffic.polls := fed.inbox.traffic.polls ++ [⟨inlet.size, .starting, true⟩]
              polling := true } }
      else none
    | _ => none
  | .poll => fed.inbox.poll?.map fun inbox => { fed with inbox }
  | .worker =>
    match fed.tasks.workers inlet.source.key with
    | some (.going (.ask call next)) =>
      (inlet.serve? fed.inbox (AdaptorTasks.answer fed.tasks.handles) call).bind
        fun (reply, inbox) => (handlesAfter? fed.tasks.handles ⟨call, reply⟩).map fun handles =>
          ⟨{ fed.tasks with handles }.assign inlet.source.key (.going (next reply))
            (.exchange ⟨call, reply⟩), inbox, fed.record ++ [⟨call, reply⟩]⟩
    | _ => none
  | .adaptor =>
    (fed.tasks.turn? adaptor .adaptor).bind fun tasks =>
      (tasks.occurrences.getLast?.bind (inlet.heed? fed.inbox)).map fun inbox =>
        { fed with tasks, inbox }

variable {adaptor : Adaptor} {inlet : Inlet} {fed later : FedAdaptor} {roll : Roll}
  {yielded : List (List Pending)}

/-- A turn is a step. -/
theorem Sound.step_of_turn? (sound : fed.Sound adaptor inlet roll yielded) {turn : Turn}
    (taken : fed.turn? adaptor inlet turn = some later) : Step adaptor inlet fed later := by
  have calm := sound.inbox.composed.calm
  cases turn with
  -- Callers from outside come and go on at any time.
  | arrive item =>
    cases taken
    exact .outside ⟨.arrive _ item, rfl, calm⟩
  | push =>
    obtain ⟨traffic, pushed, rfl⟩ := Option.map_eq_some_iff.mp taken
    exact .outside (Traffic.outside_of_push? calm pushed)
  | request =>
    dsimp only [turn?] at taken
    -- The worker asks for a batch while no poll is under way.
    split at taken
    · rename_i key timeout next asks
      obtain ⟨⟨rfl, idle⟩, same⟩ := Option.ite_none_right_eq_some.mp taken
      cases same
      exact .request asks idle
    · cases taken
  | poll =>
    obtain ⟨inbox, polled, rfl⟩ := Option.map_eq_some_iff.mp taken
    -- Somebody polls, and the last call is the one that does.
    obtain ⟨polling, reached⟩ := Option.ite_none_right_eq_some.mp polled
    obtain ⟨poll, last, goesOn⟩ := Option.bind_eq_some_iff.mp reached
    obtain ⟨⟨queue, poller⟩, stepped, rfl⟩ := Option.map_eq_some_iff.mp goesOn
    obtain ⟨before, here⟩ := List.getLast?_eq_some_iff.mp last
    rw [here, List.dropLast_concat]
    exact .poll polling here stepped
  | worker =>
    dsimp only [turn?] at taken
    split at taken
    · -- The queue answers the worker, and the handles agree to the question.
      rename_i call next works
      obtain ⟨⟨reply, inbox⟩, served, changed⟩ := Option.bind_eq_some_iff.mp taken
      obtain ⟨handles, changes, rfl⟩ := Option.map_eq_some_iff.mp changed
      exact .work works changes (Inlet.treats_of_serve? served)
    · cases taken
  | adaptor =>
    -- The adaptor goes on by itself, and the queue heeds what that was.
    obtain ⟨tasks, stepped, minded⟩ := Option.bind_eq_some_iff.mp taken
    obtain ⟨inbox, reached, rfl⟩ := Option.map_eq_some_iff.mp minded
    obtain ⟨occurrence, last, heeded⟩ := Option.bind_eq_some_iff.mp reached
    have step := AdaptorTasks.step_of_turn? stepped
    obtain ⟨other, happened⟩ := step.happens
    obtain rfl : other = occurrence := by simpa [happened] using last
    refine .aside step (fun rest works => ?_) happened (Inlet.heeds_of_heed? heeded)
    -- A worker that goes on is not begun once more.
    rcases AdaptorTasks.workers_of_turn? stepped inlet.source.key with same | ⟨next, asks⟩
    · exact same.trans works
    · rw [sound.tasks.absent asks] at works
      cases works

end FedAdaptor

namespace QueueHistory

variable {adaptor : Adaptor} {inlet : Inlet} {fed later : FedAdaptor}

/-- Every turn that is taken is part of the same history. -/
theorem turns {turns : List FedAdaptor.Turn} (history : QueueHistory adaptor inlet fed)
    (distinct : (adaptor.sources.map (·.key)).Nodup) (member : inlet.source ∈ adaptor.sources)
    (taken : turns.foldlM (FedAdaptor.turn? adaptor inlet) fed = some later) :
    QueueHistory adaptor inlet later := by
  induction turns generalizing fed with
  | nil => cases taken; exact history
  | cons turn rest ih =>
    obtain ⟨next, first, further⟩ := Option.bind_eq_some_iff.mp taken
    -- That a turn is a step needs what holds of the queue at every moment.
    obtain ⟨roll, yielded, sound⟩ := history.sound distinct member
    exact ih (history.step (sound.step_of_turn? first)) further

/-- Turns that can be taken, with something that can be checked when they are over. -/
theorem exists_turns (history : QueueHistory adaptor inlet fed)
    (distinct : (adaptor.sources.map (·.key)).Nodup) (member : inlet.source ∈ adaptor.sources)
    (turns : List FedAdaptor.Turn) (check : FedAdaptor → Bool)
    (checked : (turns.foldlM (FedAdaptor.turn? adaptor inlet) fed).any check = true) :
    ∃ later, QueueHistory adaptor inlet later ∧ check later = true := by
  obtain ⟨later, taken, holds⟩ := (Option.any_eq_true _ _).mp checked
  exact ⟨later, history.turns distinct member taken, holds⟩

end QueueHistory

end Handoff

end BatchFlow
