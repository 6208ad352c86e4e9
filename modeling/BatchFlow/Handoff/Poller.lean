import BatchFlow.Handoff.Queue

/-! Pollers: each takes what is queued, or waits for the first item until its time is over. -/

namespace BatchFlow.Handoff

/-- How far a poller has come. -/
inductive Poller where
  /-- About to draw a ticket at the gate for items. -/
  | starting
  /-- About to look for items. -/
  | looking (ticket : Nat)
  /-- Waits for an item. -/
  | parked (ticket : Nat)
  /-- Items were taken, and those who wait for room are to be told. -/
  | telling (ticket : Nat) (batch : List Pending)
  | finished (batch : List Pending)

namespace Poller

/-- The next step of a poller that takes up to `most` items, if it does not have to wait. -/
def step? (most : Nat) (queue : Queue) : Poller → Option (Queue × Poller)
  | starting =>
    -- The ticket is drawn before the look for items, so that no call is missed in between.
    let (queue, ticket) := queue.awaitItems
    some (queue, looking ticket)
  | looking ticket =>
    match queue.take most with
    | (queue, []) =>
      -- What is queued in a queue that refuses is still taken, so this is looked at last.
      if queue.isRefusing then
        some ({ queue with notEmpty := queue.notEmpty.withdraw ticket }, finished [])
      else some (queue, parked ticket)
    | (queue, batch) => some (queue, telling ticket batch)
  | parked ticket =>
    if queue.notEmpty.isWoken ticket then
      -- Whoever was woken looks again, because others may have been faster.
      some ({ queue with notEmpty := queue.notEmpty.leave ticket }, starting)
    else none
  | telling ticket batch =>
    -- Everybody who waits for room is told, since more than one place may be free.
    some ({ queue with
      notFull := queue.notFull.wakeAll
      notEmpty := queue.notEmpty.withdraw ticket }, finished batch)
  | finished _ => none

/-- A poller that gives up, because its time is over or the run was cancelled. It does so only
while it waits, so it never leaves with items. -/
def giveUp (queue : Queue) : Poller → Queue
  | looking ticket | parked ticket | telling ticket _ =>
    { queue with notEmpty := queue.notEmpty.withdraw ticket }
  | starting | finished _ => queue

/-- Goes on until the poller has to wait; it never takes more than a few steps in a row. -/
def run (most : Nat) (queue : Queue) (poller : Poller) : Nat → Queue × Poller
  | 0 => (queue, poller)
  | steps + 1 =>
    match poller.step? most queue with
    | some (queue, poller) => run most queue poller steps
    | none => (queue, poller)

/-- Whether the poller could take a step. -/
def isReady (most : Nat) (queue : Queue) (poller : Poller) : Bool :=
  (poller.step? most queue).isSome

end Poller

end BatchFlow.Handoff
