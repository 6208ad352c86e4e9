import BatchFlow.Proofs.Handoff.Acknowledgement
import BatchFlow.Proofs.Handoff.OtherCallers
import BatchFlow.Proofs.Worker.Batches

/-! Queues that feed a worker: what becomes of the items and of the acknowledgements that are held
while tasks ask the producer over the queue, and its resource, for one thing after another. -/

namespace BatchFlow.Handoff

open Plan (Exchange)
open ResourceCall (inTrace)
open Traffic (Hands Performs)

/-- How a queue feeds a worker. -/
structure Inlet where
  source : Source
  resource : Resource
  /-- How many items a poll takes at most. -/
  size : Nat
  /-- Whether acknowledgements are held until the traversal has ended. -/
  transacted : Bool
  /-- A queue that is transacted is attached as such. -/
  attached : transacted = true → source.transactional = true

/-- A queue in use, with the acknowledgements that its resource holds. -/
structure Inbox where
  traffic : Traffic
  held : List Nat
  /-- Whether the worker polls the queue, which is then the call that polled last. -/
  polling : Bool

/-- The producer over the queue. -/
def Inbox.producer (inbox : Inbox) (inlet : Inlet) : QueueProducer :=
  ⟨inbox.traffic.queue, inbox.held, inlet.size, inlet.transacted, inlet.resource⟩

/-- The items that a poll under way has taken. -/
def Inbox.inHand (inbox : Inbox) : List Pending :=
  if inbox.polling then (inbox.traffic.polls.getLast?.map (·.poller.batch)).getD [] else []

/-- In hand is what the latest poll has taken, while it is under way. -/
theorem Inbox.inHand_eq {inbox : Inbox} {before : List Poll} {poll : Poll}
    (polling : inbox.polling = true) (here : inbox.traffic.polls = before ++ [poll]) :
    inbox.inHand = poll.poller.batch := by
  simp [inHand, polling, here]

/-- While nobody polls, nothing is in hand. -/
theorem Inbox.inHand_idle {inbox : Inbox} (idle : inbox.polling = false) : inbox.inHand = [] := by
  simp [inHand, idle]

namespace Inlet

/-- Whether a question is one that the producer over the queue answers, or its resource. -/
def Concerns (inlet : Inlet) : Call → Prop
  | .producerResource key | .poll key _ | .shutdownProducer key | .connectProducer key =>
    key = inlet.source.key
  | .beginWork own | .commitWork own | .rollbackWork own _ =>
    inlet.transacted = true ∧ own.key = inlet.resource.key
  | _ => False

/-- The acknowledgements of a batch that the resource holds. -/
def kept (inlet : Inlet) (batch : List Pending) : List Nat :=
  if inlet.transacted then batch.map (·.ack) else []

/-- The acknowledgements of a batch that are given as soon as it is taken. -/
def passed (inlet : Inlet) (batch : List Pending) : List Nat :=
  if inlet.transacted then [] else batch.map (·.ack)

/-- What an exchange makes of a queue in use. The producer offers its resource, if it has one, which
begins, commits and rolls back without fail. Connecting resumes the queue, and shutting down
suspends it. A poll that has come to its end yields what it has taken; one that waits can be given
up, because its time is over or the run was cancelled. -/
inductive Treats (inlet : Inlet) : Inbox → Exchange → Inbox → Prop where
  | offer (inbox : Inbox) :
    Treats inlet inbox
      ⟨.producerResource inlet.source.key, (inbox.producer inlet).resource?⟩ inbox
  | begin (inbox : Inbox) {own : Resource} (transacted : inlet.transacted = true)
      (same : own.key = inlet.resource.key) :
    Treats inlet inbox ⟨.beginWork own, .ok ()⟩ inbox
  | commit {inbox : Inbox} {traffic : Traffic} {own : Resource}
      (transacted : inlet.transacted = true) (same : own.key = inlet.resource.key)
      (given : Hands (.ok ()) inbox.held inbox.traffic traffic) :
    Treats inlet inbox ⟨.commitWork own, .ok ()⟩ { inbox with traffic, held := [] }
  | rollback {inbox : Inbox} {traffic : Traffic} {own : Resource} {cause : String}
      (transacted : inlet.transacted = true) (same : own.key = inlet.resource.key)
      (given : Hands (.error (.rolledBack cause)) inbox.held inbox.traffic traffic) :
    Treats inlet inbox ⟨.rollbackWork own cause, .ok ()⟩ { inbox with traffic, held := [] }
  | connect {inbox : Inbox} {traffic : Traffic}
      (performed : Performs Chore.resuming inbox.traffic traffic) :
    Treats inlet inbox ⟨.connectProducer inlet.source.key, .ok ()⟩ { inbox with traffic }
  | shutdown {inbox : Inbox} {traffic : Traffic}
      (performed : Performs Chore.suspending inbox.traffic traffic) :
    Treats inlet inbox ⟨.shutdownProducer inlet.source.key, ()⟩ { inbox with traffic }
  | yield {inbox : Inbox} {traffic : Traffic} {before : List Poll} {poll : Poll}
      {batch : List Pending} {timeout : Duration} (polling : inbox.polling = true)
      (here : inbox.traffic.polls = before ++ [poll]) (ended : poll.poller = .finished batch)
      (filled : batch ≠ []) (given : Hands (.ok ()) (inlet.passed batch) inbox.traffic traffic) :
    Treats inlet inbox ⟨.poll inlet.source.key timeout, .batch (batch.map (·.item))⟩
      ⟨traffic, inbox.held ++ inlet.kept batch, false⟩
  | nothing {inbox : Inbox} {before : List Poll} {poll : Poll} {timeout : Duration}
      (polling : inbox.polling = true) (here : inbox.traffic.polls = before ++ [poll])
      (ended : poll.poller = .finished []) :
    Treats inlet inbox ⟨.poll inlet.source.key timeout, .nothing⟩ { inbox with polling := false }
  | leave {inbox : Inbox} {before : List Poll} {poll : Poll} {timeout : Duration}
      {polled : Polled} (polling : inbox.polling = true)
      (here : inbox.traffic.polls = before ++ [poll]) (present : poll.present = true)
      (free : poll.poller.MayLeave) (left : polled = .nothing ∨ polled = .cancelled) :
    Treats inlet inbox ⟨.poll inlet.source.key timeout, polled⟩
      { inbox with
        traffic :=
          { inbox.traffic with
            queue := poll.poller.giveUp inbox.traffic.queue
            polls := before ++ [{ poll with present := false }] }
        polling := false }
  /-- The run was cancelled before the poll began. -/
  | spared {inbox : Inbox} {timeout : Duration} (idle : inbox.polling = false) :
    Treats inlet inbox ⟨.poll inlet.source.key timeout, .cancelled⟩ inbox
  | other {inbox : Inbox} {exchange : Exchange} (apart : ¬ inlet.Concerns exchange.call) :
    Treats inlet inbox exchange inbox

/-- What holds of a queue in use that has yielded these batches. -/
structure Sound (inlet : Inlet) (inbox : Inbox) (yielded : List (List Pending)) : Prop where
  traffic : inbox.traffic.Sound
  composed : inbox.traffic.Composed
  holds : inbox.traffic.Holds inbox.held
  untransacted : inlet.transacted = false → inbox.held = []
  /-- Whatever was handed out was yielded, or is in hand. -/
  handed : inbox.traffic.handed = yielded.flatten ++ inbox.inHand

variable {inlet : Inlet} {inbox later : Inbox} {yielded : List (List Pending)}
  {exchange : Exchange}

/-- A new queue has yielded nothing. -/
theorem Sound.ofCapacity (capacity : Nat) : inlet.Sound ⟨.ofCapacity capacity, [], false⟩ [] where
  traffic := Traffic.sound_ofCapacity capacity
  composed := Traffic.composed_ofCapacity capacity
  holds ack held := by cases held
  untransacted _ := rfl
  handed := rfl

/-- Whoever pushes, closes or answers for what was handed out leaves the queue sound. -/
theorem Sound.keep (sound : inlet.Sound inbox yielded) {traffic : Traffic}
    (last : traffic.Sound) (kept : inbox.traffic.Kept traffic) :
    inlet.Sound { inbox with traffic } yielded where
  traffic := last
  composed := kept.composed
  holds ack held := kept.departed ▸ sound.holds ack held
  untransacted := sound.untransacted
  handed := by
    -- Neither what was handed out nor the poll under way has changed.
    rw [kept.handed, sound.handed, Inbox.inHand, Inbox.inHand, kept.polls]

/-- So does whoever suspends or resumes it. -/
theorem Sound.spare (sound : inlet.Sound inbox yielded) {traffic : Traffic}
    (last : traffic.Sound) (spared : inbox.traffic.Spared traffic) :
    inlet.Sound { inbox with traffic } yielded where
  traffic := last
  composed := spared.composed
  holds ack held := by
    obtain ⟨pending, left, same⟩ := sound.holds ack held
    exact ⟨pending, spared.departed _ left, same⟩
  untransacted := sound.untransacted
  handed := by
    rw [spared.handed, sound.handed, Inbox.inHand, Inbox.inHand, spared.polls]

/-- The worker begins to poll, and has nothing in hand yet. -/
theorem Sound.request (sound : inlet.Sound inbox yielded) (idle : inbox.polling = false) :
    inlet.Sound
      { inbox with
        traffic :=
          { inbox.traffic with
            polls := inbox.traffic.polls ++ [⟨inlet.size, .starting, true⟩] }
        polling := true } yielded where
  traffic := sound.traffic.request inlet.size
  composed := sound.composed.elsewhere rfl rfl (.of_eq rfl rfl)
  holds := sound.holds
  untransacted := sound.untransacted
  handed := by
    -- Before, nothing was in hand, and a poll that begins has taken nothing.
    have handed := sound.handed
    rw [Inbox.inHand_idle idle] at handed
    rw [Inbox.inHand_eq rfl rfl]
    exact handed

/-- What a poll takes is in hand. -/
theorem Sound.poll (sound : inlet.Sound inbox yielded) (polling : inbox.polling = true)
    {before : List Poll} {poll : Poll} {queue : Queue} {poller : Poller}
    (here : inbox.traffic.polls = before ++ [poll])
    (stepped : poll.poller.step? poll.most inbox.traffic.queue = some (queue, poller)) :
    inlet.Sound
      { inbox with
        traffic :=
          { inbox.traffic with
            queue
            polls := before ++ [{ poll with poller }]
            departed := inbox.traffic.departed ++ poller.taken.map .handed } } yielded where
  -- To the traffic this is a step of the call that polls.
  traffic := sound.traffic.stepPoll here (Poller.step?_steps stepped)
  composed := sound.composed.elsewhere rfl rfl (Poller.step?_steps stepped).spares
  holds ack held := by
    obtain ⟨pending, left, same⟩ := sound.holds ack held
    exact ⟨pending, List.mem_append_left _ left, same⟩
  untransacted := sound.untransacted
  handed := by
    -- What leaves the queue with this step is what the call that polls gets.
    have taken : (poller.taken.map Departure.handed).filterMap (·.handed?) = poller.taken := by
      rw [List.filterMap_map]
      exact List.filterMap_some
    -- The call has its batch grown by as much.
    have grown : poller.batch = inbox.inHand ++ poller.taken := by
      rw [(Poller.step?_steps stepped).batch_eq, Inbox.inHand_eq polling here]
    have inHand : ∀ traffic : Traffic, traffic.polls = before ++ [{ poll with poller }] →
        Inbox.inHand { inbox with traffic } = poller.batch :=
      fun traffic here => @Inbox.inHand_eq { inbox with traffic } _ _ polling here
    refine Eq.trans ?_ (congrArg (yielded.flatten ++ ·) (inHand _ rfl).symm)
    show List.filterMap _ (inbox.traffic.departed ++ _) = yielded.flatten ++ poller.batch
    rw [List.filterMap_append, taken, grown, ← List.append_assoc, ← sound.handed]
    rfl

/-- Nothing is held any more. -/
theorem Sound.emptied (sound : inlet.Sound inbox yielded) :
    inlet.Sound { inbox with held := [] } yielded where
  traffic := sound.traffic
  composed := sound.composed.elsewhere rfl rfl (.of_eq rfl rfl)
  holds ack held := by cases held
  untransacted _ := rfl
  handed := sound.handed

/-- What a poll has taken was handed out. -/
theorem Sound.holds_taken (sound : inlet.Sound inbox yielded) {before : List Poll} {poll : Poll}
    {batch : List Pending} (here : inbox.traffic.polls = before ++ [poll])
    (ended : poll.poller = .finished batch) : inbox.traffic.Holds (batch.map (·.ack)) := by
  -- The call that took the batch is among those that poll.
  intro ack member
  obtain ⟨pending, taken, same⟩ := List.mem_map.mp member
  have polled : ∃ poll ∈ inbox.traffic.polls, poll.poller = .finished batch :=
    ⟨poll, by simp [here], ended⟩
  exact ⟨pending, sound.traffic.departed_of_polled polled pending taken, same⟩

/-- What the resource keeps of a batch was handed out. -/
theorem holds_kept {traffic : Traffic} {batch : List Pending}
    (taken : traffic.Holds (batch.map (·.ack))) : traffic.Holds (inlet.kept batch) := by
  -- Either the resource keeps the whole batch, or nothing of it.
  unfold kept
  split
  · exact taken
  · simp [Traffic.Holds]

/-- What is given of a batch at once was handed out. -/
theorem holds_passed {traffic : Traffic} {batch : List Pending}
    (taken : traffic.Holds (batch.map (·.ack))) : traffic.Holds (inlet.passed batch) := by
  unfold passed
  split
  · simp [Traffic.Holds]
  · exact taken

/-- The exchange is the end of a poll of the queue that yielded these batches, or is about something
else and yielded none from it. -/
def Yields (inlet : Inlet) (exchange : Exchange) (more : List (List Pending)) : Prop :=
  (∃ timeout, exchange.call = .poll inlet.source.key timeout) ∧
      yields [exchange] = more.map (·.map (·.item)) ∨
    (∀ timeout, exchange.call ≠ .poll inlet.source.key timeout) ∧ more = []

/-- An exchange that is not the end of a poll yields nothing. -/
theorem Yields.none (apart : ∀ timeout, exchange.call ≠ .poll inlet.source.key timeout) :
    inlet.Yields exchange [] :=
  .inr ⟨apart, rfl⟩

/-- What was in hand when a poll ended is yielded, and everything else stays as it is. -/
theorem Treats.sound (treats : inlet.Treats inbox exchange later)
    (sound : inlet.Sound inbox yielded) :
    ∃ more, inlet.Sound later (yielded ++ more) ∧ inlet.Yields exchange more := by
  -- Whatever is not the end of a poll yields nothing.
  have unyielding : inlet.Sound later yielded → (∀ timeout, exchange.call ≠
      .poll inlet.source.key timeout) → ∃ more, inlet.Sound later (yielded ++ more) ∧
        inlet.Yields exchange more := by
    intro sound apart
    exact ⟨[], by rwa [List.append_nil], .none apart⟩
  -- One case for each way in which the queue is treated; the poll has four, of which one yields.
  cases treats with
  | offer => exact unyielding sound (by simp)
  | begin => exact unyielding sound (by simp)
  | commit transacted same given =>
    obtain ⟨last, kept⟩ := given.kept (by simp) sound.traffic sound.composed sound.holds
    exact unyielding (sound.keep last kept).emptied (by simp)
  | rollback transacted same given =>
    obtain ⟨last, kept⟩ := given.kept (by simp) sound.traffic sound.composed sound.holds
    exact unyielding (sound.keep last kept).emptied (by simp)
  | connect performed =>
    obtain ⟨last, spared⟩ := performed.sound rfl sound.traffic sound.composed
    exact unyielding (sound.spare last spared) (by simp)
  | shutdown performed =>
    obtain ⟨last, spared⟩ := performed.sound rfl sound.traffic sound.composed
    exact unyielding (sound.spare last spared) (by simp)
  | @yield traffic before poll batch timeout polling here ended filled given =>
    have taken := sound.holds_taken here ended
    obtain ⟨last, kept⟩ := given.kept (by simp) sound.traffic sound.composed (holds_passed taken)
    refine ⟨[batch], ⟨last, kept.composed, ?_, ?_, ?_⟩, .inl ⟨⟨timeout, rfl⟩, ?_⟩⟩
    · -- What the resource holds is what it held and what it was given.
      intro ack held
      rw [kept.departed]
      exact (List.mem_append.mp held).elim (sound.holds ack) (holds_kept taken ack)
    · intro untransacted
      simp [sound.untransacted untransacted, Inlet.kept, untransacted]
    · -- The batch goes from the hand to what was yielded.
      rw [kept.handed, sound.handed, Inbox.inHand_eq polling here, ended]
      simp [Poller.batch, Inbox.inHand]
    · obtain ⟨first, rest, rfl⟩ := List.exists_cons_of_ne_nil filled
      rfl
  | @nothing before poll timeout polling here ended =>
    refine ⟨[], ⟨sound.traffic, sound.composed, sound.holds, sound.untransacted, ?_⟩,
      .inl ⟨⟨timeout, rfl⟩, rfl⟩⟩
    rw [sound.handed, Inbox.inHand_eq polling here, ended]
    simp [Poller.batch, Inbox.inHand]
  | @leave before poll timeout polled polling here present free left =>
    refine ⟨[], ⟨sound.traffic.leavePoll here,
      sound.composed.elsewhere rfl rfl (poll.poller.spares_giveUp _), sound.holds,
      sound.untransacted, ?_⟩, .inl ⟨⟨timeout, rfl⟩, ?_⟩⟩
    · -- A call that can be given up has nothing in hand.
      show inbox.traffic.handed = _
      rw [sound.handed, Inbox.inHand_eq polling here, free.batch_eq_nil]
      simp [Inbox.inHand]
    · rcases left with rfl | rfl <;> rfl
  | @spared timeout idle =>
    exact ⟨[], by rwa [List.append_nil], .inl ⟨⟨timeout, rfl⟩, rfl⟩⟩
  | other apart =>
    refine unyielding sound fun timeout same => apart ?_
    rw [same]
    exact rfl

/-- An exchange that is not the end of a poll leaves a poll under way. -/
theorem Treats.polling_eq (treats : inlet.Treats inbox exchange later)
    (apart : ∀ timeout, exchange.call ≠ .poll inlet.source.key timeout) :
    later.polling = inbox.polling := by
  -- A poll ends with a batch, with nothing, or with the caller giving up.
  cases treats with
  | yield | nothing | leave => exact absurd rfl (apart _)
  | _ => rfl

/-- The end of a poll is the end of it. -/
theorem Treats.idle (treats : inlet.Treats inbox exchange later)
    (polls : inbox.polling = true → ∃ timeout, exchange.call = .poll inlet.source.key timeout) :
    later.polling = false := by
  -- Either the exchange is the end of a poll, or no poll was under way.
  by_cases polled : ∃ timeout, exchange.call = .poll inlet.source.key timeout
  · obtain ⟨timeout, same⟩ := polled
    cases treats with
    | yield | nothing | leave => rfl
    | spared idle => exact idle
    | other apart => exact absurd (same ▸ rfl) apart
    | _ => cases same
  · rw [treats.polling_eq fun timeout same => polled ⟨timeout, same⟩]
    exact Bool.eq_false_iff.mpr fun polling => polled (polls polling)

/-- Unless the queue is connected, it stays shut, and nothing is queued. -/
theorem Treats.shut (treats : inlet.Treats inbox exchange later)
    (sound : inlet.Sound inbox yielded) (shut : inbox.traffic.Shut)
    (apart : exchange.call ≠ .connectProducer inlet.source.key) :
    later.traffic.Shut ∧ later.traffic.accepted = inbox.traffic.accepted := by
  -- To answer for what was handed out is nothing to a queue that is shut.
  have owed : ∀ acks, inbox.traffic.Holds acks → ∀ {answer : Answer} {traffic : Traffic},
      Hands answer acks inbox.traffic traffic → answer ≠ .error .closed →
        traffic.Shut ∧ traffic.accepted = inbox.traffic.accepted :=
    fun acks holds _ _ given open_ =>
      (given.kept open_ sound.traffic sound.composed holds).2.shut shut
  cases treats with
  | offer | begin | nothing | spared | other => exact ⟨shut, rfl⟩
  | commit transacted same given => exact owed _ sound.holds given (by simp)
  | rollback transacted same given => exact owed _ sound.holds given (by simp)
  | connect performed => exact absurd rfl apart
  | shutdown performed =>
    obtain ⟨last, unchanged⟩ :=
      performed.shut sound.composed (by simp [Chore.suspending]) (.shut shut)
    exact ⟨last, unchanged shut⟩
  -- Everything that the batch answers for was handed out.
  | yield polling here ended filled given =>
    exact owed _ (holds_passed (sound.holds_taken here ended)) given (by simp)
  -- A call that gives up leaves the items and the tickets of others as they are.
  | @leave before poll timeout polled polling here present free left =>
    refine ⟨shut.elsewhere rfl (poll.poller.spares_giveUp _) ?_ ?_, rfl⟩
    · cases poll.poller <;> rfl
    · cases poll.poller <;> rfl

/-- Shutting down shuts the queue. -/
theorem Treats.shuts {reply : Unit} (treats :
    inlet.Treats inbox ⟨.shutdownProducer inlet.source.key, reply⟩ later)
    (sound : inlet.Sound inbox yielded) : later.traffic.Shut := by
  cases treats with
  | shutdown performed =>
    exact (performed.shut sound.composed (by simp [Chore.suspending]) (.begun (by simp))).1
  | other apart => exact absurd rfl apart

/-- The call that commits or rolls back the resource. -/
def releases (inlet : Inlet) : Call → Bool
  | .commitWork own | .rollbackWork own _ => own.key == inlet.resource.key
  | _ => false

/-- Whether the resource may hold something after an exchange of the worker. -/
def holdsAfter (inlet : Inlet) (holding : Bool) (exchange : Exchange) : Bool :=
  exchange.batch?.isSome || holding && !inlet.releases exchange.call

/-- Whether the resource may hold something after what the worker went through. -/
def holding (inlet : Inlet) (trace : List Exchange) : Bool :=
  trace.foldl inlet.holdsAfter false

/-- An exchange of the worker leaves nothing held, unless it yields a batch or something was held
before. -/
theorem Treats.released (treats : inlet.Treats inbox exchange later)
    (sound : inlet.Sound inbox yielded) {holding : Bool}
    (held : holding = true ∨ inbox.held = []) :
    inlet.holdsAfter holding exchange = true ∨ later.held = [] := by
  -- Whoever does not end the work of the resource leaves as much as before.
  have same : later.held = inbox.held → (inlet.transacted = true →
      inlet.releases exchange.call = false) →
      inlet.holdsAfter holding exchange = true ∨ later.held = [] := by
    intro same quiet
    rw [same]
    cases transacted : inlet.transacted with
    | false => exact .inr (sound.untransacted transacted)
    | true => exact held.imp_left fun holding => by simp [holdsAfter, holding, quiet transacted]
  cases treats with
  -- These are no ends of the work of the resource.
  | offer | begin | connect | shutdown | nothing | leave | spared =>
    exact same rfl fun _ => rfl
  -- A commit and a rollback answer for all that is held.
  | commit | rollback => exact .inr rfl
  -- A batch is not empty, so that something is held from now on.
  | @yield traffic before poll batch timeout polling here ended filled given =>
    obtain ⟨first, rest, rfl⟩ := List.exists_cons_of_ne_nil filled
    exact .inl rfl
  -- Others may end work, but not the work of this resource.
  | other apart =>
    refine same rfl fun transacted => ?_
    obtain ⟨call, reply⟩ := exchange
    cases call with
    | commitWork own | rollbackWork own =>
      exact beq_eq_false_iff_ne.mpr fun same => apart ⟨transacted, same⟩
    | _ => rfl

/-- Whoever else asks for anything leaves what is held, or nothing. -/
theorem Treats.held_subset (treats : inlet.Treats inbox exchange later)
    (apart : ∀ timeout, exchange.call ≠ .poll inlet.source.key timeout) (bare : inbox.held = []) :
    later.held = [] := by
  -- Only a batch is held that was yielded, and an end of the work releases it.
  cases treats with
  | yield => exact absurd rfl (apart _)
  | commit | rollback => rfl
  | _ => exact bare

/-- The resource of a transacted queue is offered, and begins and commits without fail. -/
def Faithful (inlet : Inlet) : Exchange → Prop
  | ⟨.producerResource key, origin⟩ => key = inlet.source.key → origin = some inlet.resource
  | ⟨.beginWork own, reply⟩ | ⟨.commitWork own, reply⟩ =>
    own.key = inlet.resource.key → reply = .ok ()
  | _ => True

/-- What a transacted queue is asked, it answers faithfully. -/
theorem Treats.faithful (treats : inlet.Treats inbox exchange later)
    (transacted : inlet.transacted = true) : inlet.Faithful exchange := by
  -- Only three answers are restricted, and each of them is given by its own case.
  cases treats with
  | offer =>
    intro _
    simp [QueueProducer.resource?, Inbox.producer, transacted]
  | begin | commit => exact fun _ => rfl
  | other apart =>
    obtain ⟨call, reply⟩ := exchange
    cases call with
    | producerResource key => exact fun same => absurd same apart
    | beginWork own | commitWork own => exact fun same => absurd ⟨transacted, same⟩ apart
    | _ => trivial
  | _ => trivial

end Inlet

end BatchFlow.Handoff
