import BatchFlow.Handoff.Poller
import BatchFlow.Handoff.Pusher

/-! What one step of a pusher and one step of a poller can do. -/

namespace BatchFlow.Handoff

/-- The queue once an item has joined it. -/
def Queue.joinedBy (queue : Queue) (item : Item) : Queue :=
  { queue with
    items := queue.items ++ [⟨item, queue.nextAck⟩]
    nextAck := queue.nextAck + 1 }

/-- A step of a pusher. -/
inductive Pusher.Steps (queue : Queue) : Pusher → Queue → Pusher → Prop where
  | drawn (item : Item) :
    Steps queue (.arriving item) queue.awaitRoom.1 (.trying item queue.nextTicket)
  | queued (item : Item) (ticket : Nat) (accepting : queue.isRefusing = false)
      (room : queue.items.length < queue.capacity) :
    Steps queue (.trying item ticket) (queue.joinedBy item) (.announcing ticket queue.nextAck)
  | full (item : Item) (ticket : Nat) (crowded : queue.capacity ≤ queue.items.length) :
    Steps queue (.trying item ticket) queue (.parked item ticket)
  | refused (item : Item) (ticket : Nat) (refusing : queue.isRefusing = true) :
    Steps queue (.trying item ticket) { queue with notFull := queue.notFull.withdraw ticket }
      (.finished (.error .closed))
  | woken (item : Item) (ticket : Nat) (called : queue.notFull.isWoken ticket = true) :
    Steps queue (.parked item ticket) { queue with notFull := queue.notFull.leave ticket }
      (.arriving item)
  | announced (ticket ack : Nat) :
    Steps queue (.announcing ticket ack)
      { queue with
        notEmpty := queue.notEmpty.wakeOne
        notFull := queue.notFull.withdraw ticket } (.awaiting ack)
  | answered (ack : Nat) (answer : Answer) (given : queue.answer? ack = some answer) :
    Steps queue (.awaiting ack) queue (.finished answer)

/-- Whatever a pusher does next is one of these steps. -/
theorem Pusher.step?_steps {queue later : Queue} {pusher next : Pusher}
    (stepped : pusher.step? queue = some (later, next)) : pusher.Steps queue later next := by
  cases pusher with
  | arriving item =>
    cases stepped
    exact .drawn item
  | trying item ticket =>
    -- The attempt is refused first, and fails for want of room only then.
    by_cases refusing : queue.isRefusing = true
    · simp only [step?, Queue.tryPush, refusing, if_true, Option.some.injEq, Prod.mk.injEq]
        at stepped
      obtain ⟨rfl, rfl⟩ := stepped
      exact .refused item ticket refusing
    · -- Only then does it matter whether there is room.
      by_cases full : queue.isFull = true
      · simp only [step?, Queue.tryPush, refusing, full, if_true, if_false, Bool.false_eq_true,
          Option.some.injEq, Prod.mk.injEq] at stepped
        obtain ⟨rfl, rfl⟩ := stepped
        exact .full item ticket (of_decide_eq_true full)
      · simp only [step?, Queue.tryPush, refusing, full, if_false, Bool.false_eq_true,
          Option.some.injEq, Prod.mk.injEq] at stepped
        obtain ⟨rfl, rfl⟩ := stepped
        have room : ¬ queue.capacity ≤ queue.items.length := fun crowded =>
          full (decide_eq_true crowded)
        exact .queued item ticket (by simpa using refusing) (by omega)
  | parked item ticket =>
    -- A pusher that was not woken has no step.
    by_cases called : queue.notFull.isWoken ticket = true
    · simp only [step?, called, if_true, Option.some.injEq, Prod.mk.injEq] at stepped
      obtain ⟨rfl, rfl⟩ := stepped
      exact .woken item ticket called
    · simp [step?, called] at stepped
  | announcing ticket ack =>
    cases stepped
    exact .announced ticket ack
  | awaiting ack =>
    -- One that waits for an answer goes on once there is one.
    obtain ⟨answer, given, same⟩ := Option.map_eq_some_iff.mp stepped
    cases same
    exact .answered ack answer given
  | finished answer => cases stepped

/-- A pusher answers nobody. -/
theorem Pusher.Steps.keeps {queue later : Queue} {pusher next : Pusher}
    (steps : pusher.Steps queue later next) :
    later.capacity = queue.capacity ∧ later.answers = queue.answers := by
  cases steps <;> exact ⟨rfl, rfl⟩

/-- Nothing is taken from an empty queue, which stays as it is. -/
theorem Queue.take_of_nil {queue : Queue} (most : Nat) (bare : queue.items = []) :
    queue.take most = (queue, []) := by
  -- An empty list of items is the one that the queue has.
  have same : { queue with items := [] } = queue := by rw [← bare]
  rw [take, bare, List.drop_nil, List.take_nil, same]

/-- A step of a poller that takes up to `most` items. -/
inductive Poller.Steps (most : Nat) (queue : Queue) : Poller → Queue → Poller → Prop where
  | drawn : Steps most queue .starting queue.awaitItems.1 (.looking queue.nextTicket)
  | took (ticket : Nat) (filled : queue.items ≠ []) :
    Steps most queue (.looking ticket) { queue with items := queue.items.drop (max most 1) }
      (.telling ticket (queue.items.take (max most 1)))
  | refused (ticket : Nat) (bare : queue.items = []) (refusing : queue.isRefusing = true) :
    Steps most queue (.looking ticket) { queue with notEmpty := queue.notEmpty.withdraw ticket }
      (.finished [])
  | empty (ticket : Nat) (bare : queue.items = []) :
    Steps most queue (.looking ticket) queue (.parked ticket)
  | woken (ticket : Nat) (called : queue.notEmpty.isWoken ticket = true) :
    Steps most queue (.parked ticket) { queue with notEmpty := queue.notEmpty.leave ticket }
      .starting
  | told (ticket : Nat) (batch : List Pending) :
    Steps most queue (.telling ticket batch)
      { queue with
        notFull := queue.notFull.wakeAll
        notEmpty := queue.notEmpty.withdraw ticket } (.finished batch)

/-- Whatever a poller does next is one of these steps. -/
theorem Poller.step?_steps {most : Nat} {queue later : Queue} {poller next : Poller}
    (stepped : poller.step? most queue = some (later, next)) :
    poller.Steps most queue later next := by
  cases poller with
  | starting =>
    cases stepped
    exact .drawn
  | looking ticket =>
    -- Items come first, and a refusal is heard only if there are none.
    by_cases bare : queue.items = []
    · have nothing := Queue.take_of_nil most bare
      by_cases refusing : queue.isRefusing = true
      · simp only [step?, nothing, refusing, if_true, Option.some.injEq, Prod.mk.injEq] at stepped
        obtain ⟨rfl, rfl⟩ := stepped
        exact .refused ticket bare refusing
      · simp only [step?, nothing, refusing, if_false, Bool.false_eq_true, Option.some.injEq,
          Prod.mk.injEq] at stepped
        obtain ⟨rfl, rfl⟩ := stepped
        exact .empty ticket bare
    · -- At least one item is taken from a queue that has any.
      have filled : queue.items.take (max most 1) ≠ [] := by
        intro none
        rcases List.take_eq_nil_iff.mp none with zero | bare
        · omega
        · contradiction
      obtain ⟨first, rest, taken⟩ := List.exists_cons_of_ne_nil filled
      simp only [step?, Queue.take, taken, Option.some.injEq, Prod.mk.injEq] at stepped
      obtain ⟨rfl, rfl⟩ := stepped
      rw [← taken]
      exact .took ticket bare
  | parked ticket =>
    -- As with pushers, only one that was woken goes on.
    by_cases called : queue.notEmpty.isWoken ticket = true
    · simp only [step?, called, if_true, Option.some.injEq, Prod.mk.injEq] at stepped
      obtain ⟨rfl, rfl⟩ := stepped
      exact .woken ticket called
    · simp [step?, called] at stepped
  | telling ticket batch =>
    cases stepped
    exact .told ticket batch
  | finished batch => cases stepped

/-- Nor does a poller. -/
theorem Poller.Steps.keeps {most : Nat} {queue later : Queue} {poller next : Poller}
    (steps : poller.Steps most queue later next) :
    later.capacity = queue.capacity ∧ later.answers = queue.answers := by
  cases steps <;> exact ⟨rfl, rfl⟩

end BatchFlow.Handoff
