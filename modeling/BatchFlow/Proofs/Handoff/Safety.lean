import BatchFlow.Proofs.Handoff.Soundness

/-! Safety of the hand-off: whoever calls the queue and in whatever order the steps of the calls
fall, no item is lost, handed out twice or out of turn, or answered for wrongly. -/

namespace BatchFlow.Handoff.Traffic

variable {traffic : Traffic}

/-- The item of an acknowledgement waits in the queue. -/
def IsQueued (traffic : Traffic) (pending : Pending) : Prop :=
  pending ∈ traffic.queue.items

/-- The item was handed out, and its acknowledgement is still open. A suspension under way has the
items in hand that it took away, until it has answered for them. -/
def IsOut (traffic : Traffic) (pending : Pending) : Prop :=
  (pending ∈ traffic.handed ∨ pending.ack ∈ traffic.refusals) ∧
    traffic.queue.answer? pending.ack = none

/-- The item is settled by an answer or a dropped acknowledgement. -/
def IsSettled (traffic : Traffic) (pending : Pending) : Prop :=
  (traffic.queue.answer? pending.ack).isSome = true

/-- Exactly one of three. -/
def OneOf (first second third : Prop) : Prop :=
  (first ∧ ¬second ∧ ¬third) ∨ (¬first ∧ second ∧ ¬third) ∨ (¬first ∧ ¬second ∧ third)

/-- A call has had its item handed out exactly once. -/
def HandedOnce (traffic : Traffic) (push : Push) : Prop :=
  ∃ ack, push.entry = some ack ∧ ⟨push.item, ack⟩ ∈ traffic.handed ∧
    (traffic.handed.map (·.ack)).count ack = 1

/-- A call has never had its item handed out. -/
def NeverHanded (traffic : Traffic) (push : Push) : Prop :=
  ∀ pending ∈ traffic.handed, push.entry ≠ some pending.ack

namespace Sound

/-- What was handed out left the queue, in this order. -/
theorem handed_sublist (departed : List Departure) :
    (departed.filterMap (·.handed?)).Sublist (departed.map (·.pending)) := by
  -- Leaving out those that were taken away leaves the others in their order.
  induction departed with
  | nil => exact .slnil
  | cons departure rest ih =>
    cases departure with
    | handed pending => exact ih.cons_cons pending
    | withdrawn pending => exact ih.cons pending

/-- Items are handed out in the order in which they were accepted. -/
theorem handed_sublist_accepted (sound : traffic.Sound) :
    traffic.handed.Sublist traffic.accepted := by
  -- Whatever was handed out has left, and what has left came before what is queued.
  rw [sound.custody.conserved]
  exact (handed_sublist _).trans (List.sublist_append_left _ _)

/-- No acknowledgement is handed out twice. -/
theorem handed_nodup (sound : traffic.Sound) : (traffic.handed.map (·.ack)).Nodup :=
  (sound.handed_sublist_accepted.map _).nodup sound.custody.distinct

/-- What is among the items handed out has left the queue in this way. -/
theorem mem_departed_of_handed {pending : Pending} (handed : pending ∈ traffic.handed) :
    .handed pending ∈ traffic.departed := by
  obtain ⟨departure, left, same⟩ := List.mem_filterMap.mp handed
  -- What was withdrawn is not among the items handed out.
  cases departure with
  | handed own =>
    cases same
    exact left
  | withdrawn own => cases same

/-- An item that has left in this way is among those handed out. -/
theorem mem_handed_of_departed {pending : Pending} (left : .handed pending ∈ traffic.departed) :
    pending ∈ traffic.handed :=
  List.mem_filterMap.mpr ⟨_, left, rfl⟩

/-- Whoever is answered for that the queue is closed was not handed out. -/
theorem not_handed_of_closed (sound : traffic.Sound) {ack : Nat}
    (closed : traffic.queue.answer? ack = some (.error .closed)) :
    ∀ pending ∈ traffic.handed, pending.ack ≠ ack := by
  intro pending handed same
  -- The answer tells how the item left, and no item leaves in two ways.
  obtain ⟨departure, left, own, allowed⟩ := sound.custody.answered closed
  have equal := sound.custody.departure_eq left (mem_departed_of_handed handed)
    (own.trans same.symm)
  subst equal
  exact allowed rfl

/-- Whoever is answered for in any other way was handed out. -/
theorem handed_of_answered (sound : traffic.Sound) {ack : Nat} {answer : Answer}
    (known : traffic.queue.answer? ack = some answer) (open_ : answer ≠ .error .closed) :
    ∃ pending ∈ traffic.handed, pending.ack = ack := by
  obtain ⟨departure, left, own, allowed⟩ := sound.custody.answered known
  -- An item that was taken away is only ever told that the queue is closed.
  cases departure with
  | handed pending => exact ⟨pending, mem_handed_of_departed left, own⟩
  | withdrawn pending => exact absurd allowed open_

/-- Every accepted item is in exactly one place. -/
theorem onePlace (sound : traffic.Sound) {pending : Pending} (member : pending ∈ traffic.accepted) :
    OneOf (traffic.IsQueued pending) (traffic.IsOut pending) (traffic.IsSettled pending) := by
  -- An accepted item has left or is queued.
  rw [sound.custody.conserved] at member
  rcases List.mem_append.mp member with gone | queued
  · obtain ⟨departure, left, rfl⟩ := List.mem_map.mp gone
    have gone : ¬ traffic.IsQueued departure.pending := fun queued =>
      sound.custody.departed_or_queued left queued rfl
    cases known : traffic.queue.answer? departure.pending.ack with
    | some answer =>
      -- Once there is an answer, the item is settled.
      refine .inr (.inr ⟨gone, fun out => ?_, by simp [IsSettled, known]⟩)
      rw [out.2] at known
      cases known
    | none =>
      refine .inr (.inl ⟨gone, ⟨?_, known⟩, by simp [IsSettled, known]⟩)
      cases departure with
      | handed own => exact .inl (mem_handed_of_departed left)
      | withdrawn own =>
        -- Nobody has answered yet, so the suspension is about to.
        exact .inr ((sound.refused left).resolve_left (by simpa [Departure.pending] using known))
  · have known := sound.custody.open_of_queued queued
    refine .inl ⟨queued, fun out => ?_, by simp [IsSettled, known]⟩
    -- Neither a poll nor a suspension has an item in hand that is queued.
    rcases out.1 with handed | refusing
    · exact sound.custody.departed_or_queued (mem_departed_of_handed handed) queued rfl
    · obtain ⟨other, left, same⟩ := sound.refusing refusing
      exact sound.custody.departed_or_queued left queued same

/-- A call that is told that the queue is closed has never had its item handed out. -/
theorem neverHanded (sound : traffic.Sound) {push : Push} (member : push ∈ traffic.pushes)
    (told : push.pusher = .finished (.error .closed)) : traffic.NeverHanded push := by
  -- The call was refused at once, or was told the answer for its item.
  have stands := (sound.pushes push member).stands
  rw [told] at stands
  intro pending handed entry
  rcases stands with ⟨none, _⟩ | ⟨ack, own, known⟩
  · -- Refused at once, it has no number at all.
    rw [none] at entry
    cases entry
  · -- Otherwise the answer says that its item was taken away.
    rw [own] at entry
    cases entry
    exact sound.not_handed_of_closed known pending handed rfl

/-- A call that is told anything else has had its item handed out exactly once. -/
theorem handedOnce (sound : traffic.Sound) {push : Push} (member : push ∈ traffic.pushes)
    {answer : Answer} (told : push.pusher = .finished answer) (open_ : answer ≠ .error .closed) :
    traffic.HandedOnce push := by
  obtain ⟨queued, stands⟩ := sound.pushes push member
  rw [told] at stands
  rcases stands with ⟨_, closed⟩ | ⟨ack, own, known⟩
  · exact absurd closed open_
  · obtain ⟨pending, handed, same⟩ := sound.handed_of_answered known open_
    -- The item under this acknowledgement is the one of the call.
    have equal := List.inj_on_of_nodup_map sound.custody.distinct
      (sound.handed_sublist_accepted.subset handed) (queued own) same
    subst equal
    refine ⟨ack, own, handed, ?_⟩
    exact List.count_eq_one_of_mem sound.handed_nodup (List.mem_map.mpr ⟨_, handed, rfl⟩)

end Sound

/-- Nothing that happens makes a queue larger or smaller. -/
theorem Step.capacity_eq {later : Traffic} (step : Step traffic later) :
    later.queue.capacity = traffic.queue.capacity := by
  -- Callers move items and tickets about, and answers do not even do that.
  cases step with
  | move moved => exact moved.keeps.1
  | answer pending answer holds open_ => exact (Queue.settle_stock _ _ _).1

/-- Whatever has happened, a queue has the capacity that it was made with, which is at least one. -/
theorem Reachable.capacity_eq {capacity : Nat} (reached : Reachable capacity traffic) :
    traffic.queue.capacity = max capacity 1 := by
  induction reached with
  | start => rfl
  | next _ step ih => exact step.capacity_eq.trans ih

/-- What the callers of a queue of some capacity may rely on. -/
structure Safe (capacity : Nat) (traffic : Traffic) : Prop where
  /-- The queue never holds more than its capacity, which is at least one. -/
  bounded : traffic.queue.items.length ≤ max capacity 1
  /-- Items are handed out in the order in which they were accepted, and each at most once. -/
  inOrder : traffic.handed.Sublist traffic.accepted ∧ (traffic.handed.map (·.ack)).Nodup
  /-- What was handed out is what the calls that polled got, no call more than it may. -/
  perCall : traffic.handed.Perm (traffic.polls.flatMap (·.poller.batch)) ∧
    ∀ poll ∈ traffic.polls, poll.poller.batch.length ≤ max poll.most 1 ∧
      poll.poller.batch.Sublist traffic.accepted
  /-- Every accepted item belongs to one call that pushed it, and is in exactly one place. -/
  onePlace : traffic.accepted.map (·.ack) = List.range traffic.queue.nextAck ∧
    (traffic.pushes.filterMap (·.entry)).Perm (List.range traffic.queue.nextAck) ∧
    ∀ pending ∈ traffic.accepted,
      OneOf (traffic.IsQueued pending) (traffic.IsOut pending) (traffic.IsSettled pending)
  /-- A call that returns that the queue is closed never had its item handed out. -/
  closed : ∀ push ∈ traffic.pushes, push.pusher = .finished (.error .closed) →
    traffic.NeverHanded push
  /-- A call that returns that its item was taken care of, or that its traversal rolled back, had
  its item handed out exactly once. -/
  taken : ∀ push ∈ traffic.pushes, push.pusher = .finished (.ok ()) ∨
    (∃ cause, push.pusher = .finished (.error (.rolledBack cause))) → traffic.HandedOnce push

/-- A queue is safe at every moment, whoever calls it and in whatever order the steps fall. -/
theorem queue_safe {capacity : Nat} (reached : Reachable capacity traffic) :
    Safe capacity traffic := by
  -- Each part of safety is read off the invariant of the queue and its callers.
  have sound := reached.sound
  constructor
  case bounded =>
    rw [← reached.capacity_eq]
    exact sound.custody.bounded
  case inOrder => exact ⟨sound.handed_sublist_accepted, sound.handed_nodup⟩
  case perCall =>
    refine ⟨sound.batches, fun poll member => ?_⟩
    obtain ⟨bounded, ordered⟩ := sound.polls poll member
    exact ⟨bounded, ordered⟩
  case onePlace =>
    exact ⟨sound.custody.numbered, sound.entries, fun pending member => sound.onePlace member⟩
  case closed => exact fun push member told => sound.neverHanded member told
  case taken =>
    rintro push member (told | ⟨cause, told⟩)
    · exact sound.handedOnce member told (by simp)
    · exact sound.handedOnce member told (by simp)

/-- One item is handed out and taken care of, while the next one meets a queue that was suspended
in the meantime. -/
theorem queue_safe_suspended :
    ∃ traffic, Reachable 1 traffic ∧
      traffic.pushes.map (·.pusher) = [.finished (.ok ()), .finished (.error .closed)] ∧
      Safe 1 traffic := by
  have opened : Reachable 1 _ := .start
  -- The first caller queues its item and announces it.
  have arrived := opened.next (.move (.arrive _ .null))
  have drawn := arrived.next (.move (.push _ [] [] _ _ _ rfl rfl rfl))
  have queued := drawn.next (.move (.push _ [] [] _ _ _ rfl rfl rfl))
  have announced := queued.next (.move (.push _ [] [] _ _ _ rfl rfl rfl))
  -- Somebody polls and takes care of it.
  have requested := announced.next (.move (.request _ 4))
  have looking := requested.next (.move (.poll _ [] [] _ _ _ rfl rfl rfl))
  have taken := looking.next (.move (.poll _ [] [] _ _ _ rfl rfl rfl))
  have settled := taken.next (.answer _ ⟨.null, 0⟩ (.ok ()) (List.mem_singleton.mpr rfl) (by simp))
  have told := settled.next (.move (.push _ [] [] _ _ _ rfl rfl rfl))
  -- The queue is suspended, and the second caller refused.
  have ordered := told.next (.move (.order _ Chore.suspending (.inr (.inl rfl))))
  have suspended := ordered.next (.move (.chore _ [] [] _ _ rfl))
  have second := suspended.next (.move (.arrive _ .null))
  have trying := second.next (.move (.push _ [_] [] _ _ _ rfl rfl rfl))
  have refused := trying.next (.move (.push _ [_] [] _ _ _ rfl rfl rfl))
  exact ⟨_, refused, rfl, queue_safe refused⟩

end BatchFlow.Handoff.Traffic
