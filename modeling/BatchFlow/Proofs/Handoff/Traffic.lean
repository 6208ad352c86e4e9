import BatchFlow.Proofs.Handoff.Steps

/-! A hand-off queue with everybody who calls it, in any interleaving of their steps. -/

namespace BatchFlow.Handoff

/-- A call that pushes an item. -/
structure Push where
  item : Item
  pusher : Pusher
  /-- The acknowledgement under which the item was queued, if it ever was. -/
  entry : Option Nat
  /-- Whether the caller still waits for the outcome. -/
  present : Bool

/-- A call that takes up to `most` items. -/
structure Poll where
  most : Nat
  poller : Poller
  present : Bool

/-- The items that a poller has taken. -/
def Poller.batch : Poller → List Pending
  | telling _ batch | finished batch => batch
  | starting | looking _ | parked _ => []

/-- One thing that closing, suspending or resuming the queue comes to, between which anybody else
may act. -/
inductive Chore where
  | markClosed
  | markSuspended
  /-- Tells the pusher of an item that was taken away that the queue is closed. -/
  | refuse (ack : Nat)
  | wakePushers
  | wakePollers
  | resume

namespace Chore

/-- Does one thing, and gives what was taken away. -/
def perform (queue : Queue) : Chore → Queue × List Pending
  | markClosed => (queue.markClosed, [])
  | markSuspended => queue.markSuspended
  | refuse ack => (queue.settle (.error .closed) ack, [])
  | wakePushers => ({ queue with notFull := queue.notFull.wakeAll }, [])
  | wakePollers => ({ queue with notEmpty := queue.notEmpty.wakeAll }, [])
  | resume => (queue.resume, [])

/-- What is left to do after a chore that took items away: first to answer for them. -/
def remaining (taken : List Pending) (rest : List Chore) : List Chore :=
  taken.map (refuse ·.ack) ++ rest

/-- What closing the queue comes to. -/
def closing : List Chore := [markClosed, wakePushers, wakePollers]

/-- What suspending the queue comes to. -/
def suspending : List Chore := [markSuspended, wakePushers, wakePollers]

/-- What resuming the queue comes to. -/
def resuming : List Chore := [resume]

/-- Does several things with nobody coming between them. -/
def performAll (queue : Queue) : List Chore → Queue
  | [] => queue
  | chore :: rest =>
    let (later, taken) := chore.perform queue
    performAll (later.settleAll (.error .closed) (taken.map (·.ack))) rest

/-- With nobody coming between, the chores of closing are what the queue does when it is closed. -/
theorem performAll_closing (queue : Queue) : performAll queue closing = queue.close := rfl

/-- The chores of suspending are what the queue does when it is suspended, refusals included. -/
theorem performAll_suspending (queue : Queue) : performAll queue suspending = queue.suspend := rfl

/-- The one chore of resuming is what the queue does when it is resumed. -/
theorem performAll_resuming (queue : Queue) : performAll queue resuming = queue.resume := rfl

/-- The acknowledgement that a chore answers, if it does. -/
def refusal? : Chore → Option Nat
  | refuse ack => some ack
  | _ => none

/-- The acknowledgements that calls with these chores left are about to answer. -/
def refusals (orders : List (List Chore)) : List Nat :=
  orders.flatMap (·.filterMap refusal?)

/-- What is about to be answered is that of the orders before one, of this one and of those after.
-/
theorem refusals_middle (before after : List (List Chore)) (chores : List Chore) :
    refusals (before ++ chores :: after) =
      refusals before ++ (chores.filterMap refusal? ++ refusals after) := by
  -- The orders around one are not touched by what becomes of it.
  rw [refusals, List.flatMap_append, List.flatMap_cons]
  rfl

/-- The items that were taken away are the first that a call has yet to answer for. -/
theorem filterMap_remaining (taken : List Pending) (rest : List Chore) :
    (remaining taken rest).filterMap refusal? =
      taken.map (·.ack) ++ rest.filterMap refusal? := by
  -- Each item that was taken away is answered for by its own chore.
  have answers : (taken.map (refuse ·.ack)).filterMap refusal? = taken.map (·.ack) := by
    rw [List.filterMap_map]
    exact congrFun List.filterMap_eq_map taken
  rw [remaining, List.filterMap_append, answers]

end Chore

/-- How an item left the queue. -/
inductive Departure where
  /-- It was handed to a poller. -/
  | handed (pending : Pending)
  /-- It was taken away by a suspension. -/
  | withdrawn (pending : Pending)

namespace Departure

/-- The item that left. -/
def pending : Departure → Pending
  | handed pending | withdrawn pending => pending

/-- The item, if a poller got it. -/
def handed? : Departure → Option Pending
  | handed pending => some pending
  | withdrawn _ => none

/-- What the pusher of such an item may be told. Who holds an acknowledgement that was handed out
tells how its traversal ended, or drops it; only a suspension says that the queue is closed. -/
def Allows : Departure → Answer → Prop
  | handed _, answer => answer ≠ .error .closed
  | withdrawn _, answer => answer = .error .closed

end Departure

/-- A queue with the calls on it and what has become of its items. -/
structure Traffic where
  queue : Queue
  pushes : List Push
  polls : List Poll
  /-- What each call that closes, suspends or resumes the queue still has to do. -/
  orders : List (List Chore)
  /-- Everything that was ever queued, in the order in which it was. -/
  accepted : List Pending
  /-- Everything that has left the queue, in the order in which it did. -/
  departed : List Departure

/-- What a pusher queues by coming to this point. -/
def Pusher.queued (item : Item) : Pusher → List Pending
  | announcing _ ack => [⟨item, ack⟩]
  | _ => []

/-- What a poller takes by coming to this point. -/
def Poller.taken : Poller → List Pending
  | telling _ batch => batch
  | _ => []

/-- Whether the caller can leave: a call that has not begun or that waits can be dropped, and one
that goes on cannot. -/
def Pusher.MayLeave : Pusher → Prop
  | arriving _ | parked .. | awaiting _ => True
  | trying .. | announcing .. | finished _ => False

/-- Whether the caller can leave. Its time may be over, but not while it has items in hand. -/
def Poller.MayLeave : Poller → Prop
  | starting | parked _ => True
  | looking _ | telling .. | finished _ => False

/-- The call has come to this point. -/
def Push.advance (push : Push) (pusher : Pusher) : Push :=
  { push with
    pusher
    entry := push.entry.or ((pusher.queued push.item).head?.map (·.ack)) }

namespace Traffic

/-- A new queue, which nobody has called yet. -/
def ofCapacity (capacity : Nat) : Traffic := ⟨.ofCapacity capacity, [], [], [], [], []⟩

/-- The items that were handed out, in the order in which they were. -/
def handed (traffic : Traffic) : List Pending := traffic.departed.filterMap (·.handed?)

/-- The acknowledgements that suspensions under way are about to answer. -/
def refusals (traffic : Traffic) : List Nat := Chore.refusals traffic.orders

/-- One atomic step of one of the callers, or a call that begins or is dropped. -/
inductive Move : Traffic → Traffic → Prop where
  | arrive (traffic : Traffic) (item : Item) :
    Move traffic
      { traffic with pushes := traffic.pushes ++ [⟨item, .arriving item, none, true⟩] }
  | push (traffic : Traffic) (before after : List Push) (push : Push) (queue : Queue)
      (pusher : Pusher) (here : traffic.pushes = before ++ push :: after)
      (present : push.present = true)
      (stepped : push.pusher.step? traffic.queue = some (queue, pusher)) :
    -- The item counts as accepted from the moment at which the pusher has queued it.
    Move traffic
      { traffic with
        queue
        pushes := before ++ push.advance pusher :: after
        accepted := traffic.accepted ++ pusher.queued push.item }
  | leavePush (traffic : Traffic) (before after : List Push) (push : Push)
      (here : traffic.pushes = before ++ push :: after) (present : push.present = true)
      (free : push.pusher.MayLeave) :
    Move traffic
      { traffic with
        queue := push.pusher.giveUp traffic.queue
        pushes := before ++ { push with present := false } :: after }
  | request (traffic : Traffic) (most : Nat) :
    Move traffic { traffic with polls := traffic.polls ++ [⟨most, .starting, true⟩] }
  | poll (traffic : Traffic) (before after : List Poll) (poll : Poll) (queue : Queue)
      (poller : Poller) (here : traffic.polls = before ++ poll :: after)
      (present : poll.present = true)
      (stepped : poll.poller.step? poll.most traffic.queue = some (queue, poller)) :
    Move traffic
      { traffic with
        queue
        polls := before ++ { poll with poller } :: after
        departed := traffic.departed ++ poller.taken.map .handed }
  | leavePoll (traffic : Traffic) (before after : List Poll) (poll : Poll)
      (here : traffic.polls = before ++ poll :: after) (present : poll.present = true)
      (free : poll.poller.MayLeave) :
    Move traffic
      { traffic with
        queue := poll.poller.giveUp traffic.queue
        polls := before ++ { poll with present := false } :: after }
  | order (traffic : Traffic) (chores : List Chore)
      (known : chores = Chore.closing ∨ chores = Chore.suspending ∨ chores = Chore.resuming) :
    Move traffic { traffic with orders := traffic.orders ++ [chores] }
  | chore (traffic : Traffic) (before after : List (List Chore)) (chore : Chore)
      (rest : List Chore) (here : traffic.orders = before ++ (chore :: rest) :: after) :
    Move traffic
      { traffic with
        queue := (chore.perform traffic.queue).1
        -- What a suspension takes away is answered for by chores that come before those left so
        -- far.
        orders := before ++ Chore.remaining (chore.perform traffic.queue).2 rest :: after
        departed := traffic.departed ++ (chore.perform traffic.queue).2.map .withdrawn }

/-- What can happen next: a move, or the answer of whoever holds an acknowledgement that was handed
out. To drop an acknowledgement is to answer that the item was abandoned. -/
inductive Step : Traffic → Traffic → Prop where
  | move {traffic later : Traffic} (moved : Move traffic later) : Step traffic later
  | answer (traffic : Traffic) (pending : Pending) (answer : Answer)
      (holds : pending ∈ traffic.handed) (open_ : answer ≠ .error .closed) :
    Step traffic { traffic with queue := traffic.queue.settle answer pending.ack }

/-- What can come of a new queue. -/
inductive Reachable (capacity : Nat) : Traffic → Prop where
  | start : Reachable capacity (.ofCapacity capacity)
  | next {traffic later : Traffic} (reached : Reachable capacity traffic)
      (step : Step traffic later) : Reachable capacity later

end Traffic

end BatchFlow.Handoff
