import BatchFlow.Failure
import BatchFlow.Handoff.Gate

/-! The hand-off queue: bounded, with an acknowledgement for every item. Each function here is one
step that no other task can come between. -/

namespace BatchFlow.Handoff

/-- What a pusher is told in the end: its item was taken care of, or why not. -/
abbrev Answer := Except PushFailure Unit

/-- A queued item with the number of its acknowledgement. -/
structure Pending where
  item : Item
  ack : Nat

/-- A bounded queue and everyone who waits at it. -/
structure Queue where
  capacity : Nat
  /-- The items that wait to be taken, oldest first. -/
  items : List Pending
  /-- Set by pushers: nothing more is accepted, and what is queued still drains. -/
  closed : Bool
  /-- Set while nobody polls: nothing is accepted or kept. -/
  suspended : Bool
  notEmpty : Gate
  notFull : Gate
  /-- The number of the next acknowledgement. -/
  nextAck : Nat
  /-- The number of the next ticket, at either gate. -/
  nextTicket : Nat
  /-- The acknowledgements that have been given. -/
  answers : List (Nat × Answer)

/-- What comes of an attempt to push. -/
inductive Attempt where
  | queued (ack : Nat)
  | full
  | refused

namespace Queue

/-- An empty queue for at least one item. -/
def ofCapacity (capacity : Nat) : Queue where
  capacity := max capacity 1
  items := []
  closed := false
  suspended := false
  notEmpty := .quiet
  notFull := .quiet
  nextAck := 0
  nextTicket := 0
  answers := []

/-- Whether the queue accepts nothing at all. -/
def isRefusing (queue : Queue) : Bool := queue.closed || queue.suspended

/-- Whether there is no room for another item. -/
def isFull (queue : Queue) : Bool := queue.capacity ≤ queue.items.length

/-- The answer to an acknowledgement, if it has been given. -/
def answer? (queue : Queue) (ack : Nat) : Option Answer :=
  (queue.answers.find? (·.1 == ack)).map (·.2)

/-- Gives an acknowledgement. The first answer is final. -/
def settle (queue : Queue) (answer : Answer) (ack : Nat) : Queue :=
  -- Whoever answers later is not heard.
  if (queue.answer? ack).isSome then queue
  else { queue with answers := queue.answers ++ [(ack, answer)] }

/-- The first answer to an acknowledgement is final, and concerns no other one. -/
@[simp] theorem answer?_settle (queue : Queue) (answer : Answer) (ack other : Nat) :
    (queue.settle answer ack).answer? other =
      if ack = other ∧ queue.answer? ack = none then some answer else queue.answer? other := by
  unfold settle
  cases given : queue.answer? ack with
  | some first => simp
  | none =>
    simp only [Option.isSome_none, Bool.false_eq_true, if_false, and_true]
    by_cases same : ack = other
    · -- Nothing was found before, so the new answer is the first one.
      subst same
      simp only [answer?, Option.map_eq_none_iff] at given
      simp [answer?, List.find?_append, given]
    · simp [answer?, List.find?_append, same]

/-- Gives the same answer to several acknowledgements, in order. -/
def settleAll (queue : Queue) (answer : Answer) (acks : List Nat) : Queue :=
  acks.foldl (fun queue ack => queue.settle answer ack) queue

/-- Draws a ticket at the gate for room. -/
def awaitRoom (queue : Queue) : Queue × Nat :=
  ({ queue with
      notFull := queue.notFull.register queue.nextTicket
      nextTicket := queue.nextTicket + 1 }, queue.nextTicket)

/-- Draws a ticket at the gate for items. -/
def awaitItems (queue : Queue) : Queue × Nat :=
  ({ queue with
      notEmpty := queue.notEmpty.register queue.nextTicket
      nextTicket := queue.nextTicket + 1 }, queue.nextTicket)

/-- Tries to put an item at the end. -/
def tryPush (queue : Queue) (item : Item) : Queue × Attempt :=
  -- A queue that refuses does so even if it has room.
  if queue.isRefusing then (queue, .refused)
  else if queue.isFull then (queue, .full)
  else
    ({ queue with
        items := queue.items ++ [⟨item, queue.nextAck⟩]
        nextAck := queue.nextAck + 1 }, .queued queue.nextAck)

/-- Takes up to `most` items from the front, and at least one if there is any. -/
def take (queue : Queue) (most : Nat) : Queue × List Pending :=
  let count := max most 1
  ({ queue with items := queue.items.drop count }, queue.items.take count)

/-- Calls everybody at both gates. -/
def wakeEverybody (queue : Queue) : Queue :=
  { queue with notFull := queue.notFull.wakeAll, notEmpty := queue.notEmpty.wakeAll }

/-- Sets the mark against further items. -/
def markClosed (queue : Queue) : Queue := { queue with closed := true }

/-- Refuses further items. Queued items are still handed out. -/
def close (queue : Queue) : Queue := queue.markClosed.wakeEverybody

/-- Sets the mark that nobody polls, and takes away what is queued. -/
def markSuspended (queue : Queue) : Queue × List Pending :=
  ({ queue with suspended := true, items := [] }, queue.items)

/-- Refuses every item until the queue is resumed, and those that are still queued. -/
def suspend (queue : Queue) : Queue :=
  let (queue, abandoned) := queue.markSuspended
  -- The pushers are told before anybody is woken.
  (queue.settleAll (.error .closed) (abandoned.map (·.ack))).wakeEverybody

/-- Accepts items again. -/
def resume (queue : Queue) : Queue := { queue with suspended := false }

end Queue

end BatchFlow.Handoff
