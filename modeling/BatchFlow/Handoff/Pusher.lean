import BatchFlow.Handoff.Queue

/-! Pushers: each waits for room, queues its item, and waits for the traversal that takes it. -/

namespace BatchFlow.Handoff

/-- How far a pusher has come. -/
inductive Pusher where
  /-- About to draw a ticket at the gate for room. -/
  | arriving (item : Item)
  /-- About to look for room. -/
  | trying (item : Item) (ticket : Nat)
  /-- Waits for room with the item in hand. -/
  | parked (item : Item) (ticket : Nat)
  /-- The item is queued, and somebody is to be told. -/
  | announcing (ticket ack : Nat)
  /-- Waits for the acknowledgement. -/
  | awaiting (ack : Nat)
  | finished (answer : Answer)

namespace Pusher

/-- The next step of a pusher, if it does not have to wait. -/
def step? (queue : Queue) : Pusher → Option (Queue × Pusher)
  | arriving item =>
    -- The ticket is drawn before the look for room, so that no call is missed in between.
    let (queue, ticket) := queue.awaitRoom
    some (queue, trying item ticket)
  | trying item ticket =>
    match queue.tryPush item with
    | (queue, .queued ack) => some (queue, announcing ticket ack)
    -- The ticket stays at the gate while the item waits in hand.
    | (queue, .full) => some (queue, parked item ticket)
    | (queue, .refused) =>
      some ({ queue with notFull := queue.notFull.withdraw ticket }, finished (.error .closed))
  | parked item ticket =>
    if queue.notFull.isWoken ticket then
      -- Whoever was woken begins anew, because others may have been faster.
      some ({ queue with notFull := queue.notFull.leave ticket }, arriving item)
    else none
  | announcing ticket ack =>
    -- One poller is told of the item, and a call that this pusher did not need goes on to another.
    some ({ queue with
      notEmpty := queue.notEmpty.wakeOne
      notFull := queue.notFull.withdraw ticket }, awaiting ack)
  | awaiting ack => (queue.answer? ack).map fun answer => (queue, finished answer)
  | finished _ => none

/-- A pusher that gives up. What it queued stays queued. -/
def giveUp (queue : Queue) : Pusher → Queue
  | trying _ ticket | parked _ ticket | announcing ticket _ =>
    { queue with notFull := queue.notFull.withdraw ticket }
  | arriving _ | awaiting _ | finished _ => queue

/-- Goes on until the pusher has to wait; it never takes more than a few steps in a row. -/
def run (queue : Queue) (pusher : Pusher) : Nat → Queue × Pusher
  | 0 => (queue, pusher)
  | steps + 1 =>
    match pusher.step? queue with
    | some (queue, pusher) => run queue pusher steps
    | none => (queue, pusher)

/-- Whether the pusher could take a step. -/
def isReady (queue : Queue) (pusher : Pusher) : Bool :=
  (pusher.step? queue).isSome

end Pusher

end BatchFlow.Handoff
