import BatchFlow.Adaptor
import BatchFlow.Stage.Answer

/-! Running an adaptor on one thread under a virtual clock. Tasks are cooperative: each runs until
it has to wait, and the clock moves only when every task waits. -/

namespace BatchFlow.Stage

/-- How far a task has come with its plan. -/
inductive Progress (ρ : Type) where
  | ready (plan : Plan ρ)
  | waiting (call : Call) (next : call.Reply → Plan ρ) (wait : Wait call)
  | finished (result : ρ)
  | panicked
  | starved

/-- One thing that traffic from outside does. -/
inductive Action where
  /-- Pushes an item and waits for its acknowledgement. -/
  | push (producer : Nat) (item : Item)
  /-- Pushes an item without waiting; the acknowledgement counts after all actions. -/
  | pushAside (producer : Nat) (item : Item)
  | close (producer : Nat)
  | sleep (nanoseconds : Nat)
  /-- Asks the adaptor to stop. -/
  | stop

/-- What traffic is busy with. -/
inductive Activity where
  | acting
  | pushing (producer : Nat) (pusher : Handoff.Pusher)
  | sleeping (due : Nat)

/-- Traffic from outside: what is left to do, what it is busy with, and what came of its pushes. -/
structure Traffic where
  actions : List Action
  activity : Activity
  outcomes : List Handoff.Answer
  /-- The tasks of the pushes that were not waited for. -/
  aside : List Nat

/-- The work of a task. -/
inductive Body where
  | supervisor (progress : Progress (Except Refusal Report))
  | worker (source : Source) (progress : Progress WorkerExit)
  | pusher (producer : Nat) (pusher : Handoff.Pusher)
  | traffic (traffic : Traffic)

/-- A task, with the moment since which it has been waiting. -/
structure Task where
  body : Body
  since : Nat

/-- An adaptor in the course of a run. -/
structure Machine where
  adaptor : Adaptor
  world : World
  /-- All tasks, in the order of their numbers. -/
  tasks : List Task
  /-- The numbers of the tasks that can go on, the one to be run first in front. -/
  ready : List Nat
  /-- Workers that ended without the supervisor having been told yet. -/
  exits : List (String × Int32)
  /-- Counts the moments at which tasks began to wait. -/
  moments : Nat

namespace Machine

/-- The queue producer of a key. -/
def queueOf? (machine : Machine) (key : Nat) : Option QueueProducer :=
  match machine.world.outlet? key with
  | some { feed := .queue producer, .. } => some producer
  | _ => none

/-- Replaces the queue of a queue producer. -/
def putQueue (machine : Machine) (key : Nat) (queue : Handoff.Queue) : Machine :=
  match machine.queueOf? key with
  | some producer =>
    { machine with world := machine.world.putFeed key (.queue { producer with queue }) }
  | none => machine

/-- Adds a task that is ready to run, and gives its number. -/
def addTask (machine : Machine) (body : Body) : Machine × Nat :=
  ({ machine with
      tasks := machine.tasks ++ [⟨body, machine.moments⟩]
      ready := machine.ready ++ [machine.tasks.length] }, machine.tasks.length)

/-- Replaces the work of a task, which has to wait from now on. -/
def putTask (machine : Machine) (number : Nat) (body : Body) : Machine :=
  { machine with
    tasks := machine.tasks.set number ⟨body, machine.moments⟩
    moments := machine.moments + 1 }

/-- Starts the worker of a producer. -/
def spawnWorker (machine : Machine) (key : Nat) : Machine :=
  match machine.adaptor.sources.find? (·.key == key) with
  | some source =>
    (machine.addTask (.worker source (.ready (machine.adaptor.workerFor source).run))).1
  | none => machine

/-- How the worker of a producer ended, if it ended without a panic. The latest run counts. -/
def exitOf? (machine : Machine) (key : Nat) : Option WorkerExit :=
  -- Later runs have added their tasks at the end.
  machine.tasks.reverse.findSome? fun task =>
    match task.body with
    | .worker source (.finished exit) => if source.key = key then some exit else none
    | _ => none

/-- How often a task may use metadata before others have their turn. -/
def usesInATurn : Nat := 128

/-- Carries out a plan until it has to wait, or has used metadata too often. -/
def advance {ρ : Type} : Plan ρ → Nat → Machine → Machine × Progress ρ
  | .done result, _, machine => (machine, .finished result)
  | .starved, _, machine => (machine, .starved)
  | .ask (.spawnWorker key) next, uses, machine => advance (next ()) uses (machine.spawnWorker key)
  | .ask (.collectExit key) next, uses, machine =>
    advance (next (machine.exitOf? key)) uses machine
  | .ask .nextExit next, uses, machine =>
    match machine.exits with
    | exit :: exits => advance (next exit) uses { machine with exits }
    -- The supervisor waits for the first worker to end.
    | [] => (machine, .waiting .nextExit next .exit)
  | .ask call next, uses, machine =>
    match machine.world.concerns? call, uses with
    -- By its next turn the collaborator may have been told of other metadata.
    | some metadata, 0 => (machine, .waiting call next (.turn metadata))
    | concerns, uses =>
      match machine.world.answer call with
      | .reply world reply =>
        let uses := if concerns.isSome then uses - 1 else uses
        advance (next reply) uses { machine with world }
      | .wait world wait => ({ machine with world }, .waiting call next wait)
      | .panic world => ({ machine with world }, .panicked)

/-- What a wait comes to by now: still waiting, a reply, or a panic. -/
def settleWait (machine : Machine) : {call : Call} → Wait call → Answer call
  | call, .turn metadata => machine.world.answerAbout (some metadata) call
  | _, .timed due reply ifCancelled =>
    let world := machine.world
    -- A cancelled wait ends with its own reply, before its time is over.
    match ifCancelled, world.isCancelled with
    | some reply, true => .reply world reply
    | _, _ =>
      if due ≤ world.now then
        match reply with
        | some reply => .reply world reply
        | none => .panic world
      else .wait world (.timed due reply ifCancelled)
  | _, .polling key timeout poller due =>
    match machine.queueOf? key with
    | none => .reply machine.world .nothing
    | some producer =>
      -- A poller that gives up hands its ticket back.
      if machine.world.isCancelled then
        let queue := poller.giveUp producer.queue
        .reply (machine.putQueue key queue).world .cancelled
      else machine.world.goOnPolling key timeout producer poller due
  | _, .exit =>
    match machine.exits with
    | exit :: _ => .reply machine.world exit
    | [] => .wait machine.world .exit

/-- Goes on with a plan as far as possible. -/
def proceed {ρ : Type} (machine : Machine) : Progress ρ → Machine × Progress ρ
  | .ready plan => advance plan usesInATurn machine
  -- An exit is taken from the list by asking for it again.
  | .waiting .nextExit next _ => advance (.ask .nextExit next) usesInATurn machine
  | .waiting call next wait =>
    match machine.settleWait wait with
    | .reply world reply =>
      let uses := match wait with
        | .turn _ => usesInATurn - 1
        | _ => usesInATurn
      advance (next reply) uses { machine with world }
    | .wait world wait => ({ machine with world }, .waiting call next wait)
    | .panic world => ({ machine with world }, .panicked)
  | progress => (machine, progress)

/-- Whether a waiting plan can go on by now. -/
def isDue (machine : Machine) {call : Call} : Wait call → Bool
  | .timed due _ ifCancelled =>
    due ≤ machine.world.now || (ifCancelled.isSome && machine.world.isCancelled)
  | .polling key _ poller due =>
    due ≤ machine.world.now || machine.world.isCancelled ||
      match machine.queueOf? key with
      | some producer => poller.isReady producer.batchSize producer.queue
      | none => true
  | .exit => !machine.exits.isEmpty
  -- The turns of others come first.
  | .turn _ => false

/-- Whether a plan can go on by now. -/
def canProceed {ρ : Type} (machine : Machine) : Progress ρ → Bool
  | .ready _ => true
  | .waiting _ _ wait => machine.isDue wait
  | _ => false

/-- Whether a pusher can go on by now. -/
def canPush (machine : Machine) (key : Nat) (pusher : Handoff.Pusher) : Bool :=
  match machine.queueOf? key with
  | some producer => pusher.isReady producer.queue
  | none => false

/-- Whether a task can go on by now. -/
def canRun (machine : Machine) : Body → Bool
  | .supervisor progress => machine.canProceed progress
  | .worker _ progress => machine.canProceed progress
  | .pusher key pusher => machine.canPush key pusher
  | .traffic traffic =>
    match traffic.activity with
    | .acting => !traffic.actions.isEmpty
    | .pushing key pusher => machine.canPush key pusher
    | .sleeping due => due ≤ machine.world.now

/-- Lets a pusher go on as far as it can. -/
def push (machine : Machine) (key : Nat) (pusher : Handoff.Pusher) : Machine × Handoff.Pusher :=
  match machine.queueOf? key with
  -- Nothing can be pushed into what is no queue.
  | none => (machine, .finished (.error .closed))
  | some producer =>
    let (queue, pusher) := pusher.run producer.queue World.stepsInARow
    (machine.putQueue key queue, pusher)

/-- Lets traffic do one thing after the other until it has to wait. -/
def act (machine : Machine) (outcomes : List Handoff.Answer) (aside : List Nat) :
    List Action → Machine × Traffic
  | [] => (machine, ⟨[], .acting, outcomes, aside⟩)
  | .push key item :: rest =>
    match machine.push key (.arriving item) with
    | (machine, .finished answer) => machine.act (outcomes ++ [answer]) aside rest
    | (machine, pusher) => (machine, ⟨rest, .pushing key pusher, outcomes, aside⟩)
  | .pushAside key item :: rest =>
    let (machine, number) := machine.addTask (.pusher key (.arriving item))
    machine.act outcomes (aside ++ [number]) rest
  | .close key :: rest =>
    let machine := match machine.queueOf? key with
      | some producer => machine.putQueue key producer.queue.close
      | none => machine
    machine.act outcomes aside rest
  | .sleep nanoseconds :: rest =>
    -- Sleeping for no time does not let anybody else go first.
    if nanoseconds = 0 then machine.act outcomes aside rest
    else (machine, ⟨rest, .sleeping (machine.world.now + nanoseconds), outcomes, aside⟩)
  | .stop :: rest =>
    let world := { machine.world with stopRequested := true }
    { machine with world }.act outcomes aside rest

/-- Lets traffic go on. -/
def goOnActing (machine : Machine) (traffic : Traffic) : Machine × Traffic :=
  match traffic.activity with
  | .pushing key pusher =>
    match machine.push key pusher with
    | (machine, .finished answer) =>
      machine.act (traffic.outcomes ++ [answer]) traffic.aside traffic.actions
    | (machine, pusher) => (machine, { traffic with activity := .pushing key pusher })
  | _ => machine.act traffic.outcomes traffic.aside traffic.actions

/-- Runs a task until it has to wait. The end of a worker is announced, whatever it was. -/
def runTask (machine : Machine) (number : Nat) : Machine :=
  match machine.tasks[number]? with
  | none => machine
  | some task =>
    match task.body with
    | .supervisor progress =>
      let (machine, progress) := machine.proceed progress
      machine.putTask number (.supervisor progress)
    | .worker source progress =>
      let (machine, progress) := machine.proceed progress
      -- The supervisor learns of the end of a worker, be it a panic.
      let exits := match progress with
        | .finished exit => machine.exits ++ [(source.id, exit.code)]
        | .panicked => machine.exits ++ [(source.id, 1)]
        | _ => machine.exits
      { machine with exits }.putTask number (.worker source progress)
    | .pusher key pusher =>
      let (machine, pusher) := machine.push key pusher
      machine.putTask number (.pusher key pusher)
    | .traffic traffic =>
      let (machine, traffic) := machine.goOnActing traffic
      machine.putTask number (.traffic traffic)

/-- Whether a task is a supervisor, which goes on only when no other task can. -/
def isSupervisor (task : Task) : Bool :=
  match task.body with
  | .supervisor _ => true
  | _ => false

/-- The numbers of the tasks that can go on, those that have waited longest first. -/
def runnable (machine : Machine) (choose : Task → Bool) : List Nat :=
  let candidates := machine.tasks.zipIdx.filter fun (task, number) =>
    -- Tasks that are in line already are not put there again.
    choose task && machine.canRun task.body && !machine.ready.contains number
  (candidates.mergeSort fun a b => a.1.since ≤ b.1.since).map (·.2)

/-- When a task goes on by itself, if it does. -/
def due? (task : Task) : Option Nat :=
  let dueOf {ρ : Type} : Progress ρ → Option Nat := fun progress =>
    match progress with
    | .waiting _ _ (.timed due _ _) | .waiting _ _ (.polling _ _ _ due) => some due
    | _ => none
  match task.body with
  | .supervisor progress => dueOf progress
  | .worker _ progress => dueOf progress
  | .pusher .. => none
  | .traffic { activity := .sleeping due, .. } => some due
  | .traffic _ => none

/-- The next moment at which a task goes on by itself. -/
def nextDue? (machine : Machine) : Option Nat :=
  (machine.tasks.filterMap due?).min?

/-- Whether a task only waits for another turn. -/
def awaitsTurn (task : Task) : Bool :=
  let awaits {ρ : Type} : Progress ρ → Bool := fun progress =>
    match progress with
    | .waiting _ _ (.turn _) => true
    | _ => false
  match task.body with
  | .supervisor progress => awaits progress
  | .worker _ progress => awaits progress
  | _ => false

/-- The numbers of the tasks that only wait for another turn, in the order in which they began. -/
def turns (machine : Machine) : List Nat :=
  let candidates := machine.tasks.zipIdx.filter (awaitsTurn ·.1)
  (candidates.mergeSort fun a b => a.1.since ≤ b.1.since).map (·.2)

/-- One step: a task runs, or the clock moves on, or nothing can happen any more. -/
def step? (machine : Machine) : Option Machine :=
  -- Tasks that were spawned go before those that have waited.
  let woken := machine.runnable fun task => !isSupervisor task
  match machine.ready ++ woken with
  | number :: ready => some ({ machine with ready }.runTask number)
  | [] =>
    match machine.runnable isSupervisor with
    | number :: _ => some (machine.runTask number)
    | [] =>
      match machine.turns with
      | number :: ready => some ({ machine with ready }.runTask number)
      | [] =>
        -- Nobody can go on, so time does.
        match machine.nextDue? with
        | some due => some { machine with world := { machine.world with now := due } }
        | none => none

/-- Runs until nothing can happen any more; `fuel` bounds the steps. -/
def run : Nat → Machine → Machine
  | 0, machine => machine
  | fuel + 1, machine =>
    match machine.step? with
    | some next => run fuel next
    | none => machine

/-- What a supervisor came to. -/
def resultOf (machine : Machine) (number : Nat) : Option (Except Refusal Report) :=
  match machine.tasks[number]? with
  | some { body := .supervisor (.finished result), .. } => some result
  | _ => none

/-- What came of a push that was not waited for. -/
def answerOf (machine : Machine) (number : Nat) : Option Handoff.Answer :=
  match machine.tasks[number]? with
  | some { body := .pusher _ (.finished answer), .. } => some answer
  | _ => none

/-- What came of all pushes of traffic, those that were not waited for at the end. -/
def outcomesOf (machine : Machine) (number : Nat) : List Handoff.Answer :=
  match machine.tasks[number]? with
  | some { body := .traffic traffic, .. } =>
    traffic.outcomes ++ traffic.aside.filterMap machine.answerOf
  | _ => []

end Machine

/-- What a run on the stage shows. -/
structure Performance where
  world : World
  /-- The results of the runs that were asked for; one that never ended is missing. -/
  results : List (Except Refusal Report)
  /-- What came of the pushes. -/
  outcomes : List Handoff.Answer

/-- More steps than any run that ends takes. -/
def longRun : Nat := 1000000000

/-- Runs an adaptor as many times at once as asked for, beside traffic from outside. -/
def World.runAdaptor (world : World) (adaptor : Adaptor) (times : Nat) (actions : List Action) :
    Performance :=
  let machine : Machine := ⟨adaptor, world, [], [], [], 0⟩
  let (machine, traffic) := machine.addTask (.traffic ⟨actions, .acting, [], []⟩)
  -- Supervisors are not queued: they run when no other task can.
  let supervisors := List.replicate times (Task.mk (.supervisor (.ready adaptor.run)) 0)
  let machine := { machine with tasks := machine.tasks ++ supervisors }
  let machine := machine.run longRun
  { world := machine.world
    results := (List.range times).filterMap fun number => machine.resultOf (number + 1)
    outcomes := machine.outcomesOf traffic }

end BatchFlow.Stage
