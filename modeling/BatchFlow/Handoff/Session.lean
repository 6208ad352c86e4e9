import BatchFlow.Duration
import BatchFlow.Producer.Queue

/-! Sessions: one queue producer by itself, with the tasks that push into it, under a clock that
moves only while somebody polls. -/

namespace BatchFlow.Handoff

/-- A task that pushes an item, at once or later. -/
structure Caller where
  pusher : Pusher
  /-- When the task begins, in nanoseconds. -/
  start : Nat
  /-- The moment since which the task has been waiting. -/
  since : Nat

/-- A queue producer in use. -/
structure Session where
  producer : QueueProducer
  /-- Set once the producer is gone; its queue outlives it. -/
  dropped : Bool
  callers : List Caller
  /-- The time that has passed, in nanoseconds. -/
  now : Nat
  /-- Counts the moments at which tasks began to wait. -/
  moments : Nat

/-- One thing that is done in a session. -/
inductive Operation where
  | push (item : Item)
  | pushLater (delay : Duration) (item : Item)
  | poll (timeout : Duration)
  | commit
  | rollback (cause : String)
  | close
  | shutdown
  | connect
  | disconnect
  | drop

/-- What an operation answers. -/
inductive Reply where
  | nothing
  | connected
  | disconnected
  /-- The batch of a poll, and whether its whole time went by. -/
  | polled (batch : Option (List Item)) (timedOut : Bool)
  /-- The resource of this name committed. -/
  | committed (resource : String)
  | rolledBack (resource : String)

namespace Session

/-- A session with nobody in it. -/
def ofProducer (producer : QueueProducer) : Session := ⟨producer, false, [], 0, 0⟩

/-- The queue of the producer. -/
def queue (session : Session) : Queue := session.producer.queue

/-- Replaces the queue. -/
def putQueue (session : Session) (queue : Queue) : Session :=
  { session with producer := { session.producer with queue } }

/-- Adds a task that pushes an item after a delay. -/
def addCaller (session : Session) (delay : Duration) (item : Item) : Session :=
  let caller := ⟨.arriving item, session.now + delay.nanoseconds, session.moments⟩
  { session with callers := session.callers ++ [caller], moments := session.moments + 1 }

/-- Whether a task can go on by now. -/
def canRun (session : Session) (caller : Caller) : Bool :=
  caller.start ≤ session.now && caller.pusher.isReady session.queue

/-- Lets one task go on until it has to wait. -/
def runCaller (session : Session) (number : Nat) : Session :=
  match session.callers[number]? with
  | none => session
  | some caller =>
    let (queue, pusher) := caller.pusher.run session.queue 64
    let session := session.putQueue queue
    { session with
      callers := session.callers.set number { caller with pusher, since := session.moments }
      moments := session.moments + 1 }

/-- Lets every task that can go on do so, those that have waited longest first. No task makes
another one ready by going on. -/
def settle (session : Session) : Session :=
  -- Who is ready is settled before anybody goes on.
  let ready := session.callers.zipIdx.filter fun (caller, _) => session.canRun caller
  let ordered := ready.mergeSort fun a b => a.1.since ≤ b.1.since
  ordered.foldl (fun session entry => session.runCaller entry.2) session

/-- The time at which the next task begins, if one is still to come. -/
def nextStart? (session : Session) : Option Nat :=
  ((session.callers.map (·.start)).filter (session.now < ·)).min?

/-- Waits with a poller for a batch until its time is over. Each round but the last lets another
task begin, so as many rounds as tasks are enough. -/
def awaitBatch (due : Nat) (session : Session) (poller : Poller) :
    Nat → Session × List Pending
  | 0 => (session, [])
  | rounds + 1 =>
    match poller.run session.producer.batchSize session.queue 64 with
    | (queue, .finished batch) => (session.putQueue queue, batch)
    | (queue, poller) =>
      let session := session.putQueue queue
      -- With nobody to come, nothing will be queued any more, and only time goes by.
      let giveUp := ({ session with now := due }.putQueue (poller.giveUp queue), [])
      match session.nextStart? with
      | none => giveUp
      | some start =>
        if start < due then awaitBatch due { session with now := start }.settle poller rounds
        else giveUp

/-- Polls the producer for a batch. -/
def poll (session : Session) (timeout : Duration) : Session × Reply :=
  let due := session.now + timeout.nanoseconds
  let (later, batch) := session.awaitBatch due .starting (session.callers.length + 1)
  -- An empty batch leaves the producer as it is.
  let later := { later with producer := later.producer.receive batch }
  -- A poll without items answers that there is nothing.
  let items := if batch.isEmpty then none else some (batch.map (·.item))
  (later, .polled items (batch.isEmpty && due ≤ later.now))

/-- Changes the producer. -/
def onProducer (session : Session) (change : QueueProducer → QueueProducer) (reply : Reply) :
    Session × Reply :=
  ({ session with producer := change session.producer }, reply)

/-- Asks the resource of the producer, if it has one. -/
def onResource (session : Session) (change : QueueProducer → QueueProducer)
    (reply : String → Reply) : Session × Reply :=
  match session.producer.resource? with
  | some resource => session.onProducer change (reply resource.name)
  | none => (session, .nothing)

/-- The producer and its resource go away, and the items whose acknowledgements they held are
abandoned. -/
def drop (session : Session) : Session :=
  { session with producer := session.producer.release (.error .abandoned), dropped := true }

/-- Does one thing. Nothing can be asked of a producer that is gone. -/
def perform (session : Session) (operation : Operation) : Session × Reply :=
  match operation with
  | .push item => (session.addCaller ⟨0⟩ item, .nothing)
  | .pushLater delay item => (session.addCaller delay item, .nothing)
  | .close => (session.putQueue session.queue.close, .nothing)
  | operation =>
    -- Pushers hold on to the queue, not to the producer.
    if session.dropped then (session, .nothing)
    else match operation with
      | .poll timeout => session.poll timeout
      | .commit => session.onResource QueueProducer.commit .committed
      | .rollback cause => session.onResource (·.rollback cause) .rolledBack
      | .shutdown => session.onProducer QueueProducer.shutdown .nothing
      | .connect => session.onProducer QueueProducer.connect .connected
      | .disconnect => (session, .disconnected)
      | .drop => (session.drop, .nothing)
      | .push _ | .pushLater .. | .close => (session, .nothing)

/-- Does one thing, and then lets all tasks go on as far as they can. -/
def step (session : Session) (operation : Operation) : Session × Reply :=
  let (session, reply) := session.perform operation
  (session.settle, reply)

/-- What a task was told in the end, if it is not waiting any more. -/
def answerOf? (caller : Caller) : Option Answer :=
  match caller.pusher with
  | .finished answer => some answer
  | _ => none

end Session

end BatchFlow.Handoff
