import BatchFlow.Proofs.Handoff.PusherTickets
import BatchFlow.Proofs.Handoff.Safety
import Mathlib.Logic.Relation

/-! What becomes of a queue that one party alone polls, suspends and resumes, while any number of
others push into it or close it. -/

namespace BatchFlow.Handoff

/-- A queue that is suspended stays as it is, whoever tries to push. -/
theorem Pusher.Steps.refused_of_suspended {queue later : Queue} {pusher next : Pusher}
    (steps : pusher.Steps queue later next) (suspended : queue.suspended = true) :
    later.suspended = true ∧ later.items = queue.items ∧ ∀ item, next.queued item = [] := by
  -- Only a push that is accepted queues its item, and a suspended queue accepts none.
  cases steps with
  | queued item ticket accepting room => simp [Queue.isRefusing, suspended] at accepting
  | _ => exact ⟨suspended, rfl, fun _ => rfl⟩

/-- No step leaves a poller where it was. -/
theorem Poller.Steps.ne {most : Nat} {queue later : Queue} {poller next : Poller}
    (steps : poller.Steps most queue later next) : next ≠ poller := by
  cases steps <;> simp

/-- Among the calls that poll, the one that takes a step is not what it was before. -/
theorem Poller.Steps.polls_ne {most : Nat} {queue later : Queue} {poll : Poll} {next : Poller}
    {before after : List Poll} (steps : poll.poller.Steps most queue later next) :
    before ++ { poll with poller := next } :: after ≠ before ++ poll :: after := by
  intro polls
  have same : ({ poll with poller := next } : Poll) = poll := by simpa using polls
  exact steps.ne (congrArg (·.poller) same)

/-- A poller has in hand what it had before and what it takes. -/
theorem Poller.Steps.batch_eq {most : Nat} {queue later : Queue} {poller next : Poller}
    (steps : poller.Steps most queue later next) : next.batch = poller.batch ++ next.taken := by
  cases steps <;> simp [Poller.batch, Poller.taken]

/-- A poller that can leave has nothing in hand. -/
theorem Poller.MayLeave.batch_eq_nil {poller : Poller} (free : poller.MayLeave) :
    poller.batch = [] := by
  cases poller <;> first | rfl | cases free

/-- Settling does not touch the mark that nobody polls. -/
theorem Queue.settle_suspended (queue : Queue) (answer : Answer) (ack : Nat) :
    (queue.settle answer ack).suspended = queue.suspended := by
  unfold settle
  split <;> rfl

namespace Traffic

variable {traffic middle later : Traffic}

/-- Whatever is ordered are closings. -/
def Calm (traffic : Traffic) : Prop :=
  ∀ order ∈ traffic.orders, ∀ chore ∈ order, chore ∈ Chore.closing

/-- Nothing is suspended but by one party, and nobody who waits for room is forgotten. -/
structure Composed (traffic : Traffic) : Prop where
  calm : traffic.Calm
  orderly : traffic.Orderly

/-- Nothing is queued, and nothing will be until the queue is resumed. -/
structure Suspended (traffic : Traffic) : Prop where
  suspended : traffic.queue.suspended = true
  bare : traffic.queue.items = []

/-- Besides, whoever waits for room was called. -/
structure Shut (traffic : Traffic) : Prop extends traffic.Suspended where
  called : traffic.Called

/-- A move of somebody who pushes or closes. -/
structure Outside (traffic later : Traffic) : Prop where
  moved : traffic.Move later
  polls : later.polls = traffic.polls
  calm : later.Calm

/-- With a new queue nothing is ordered, and nobody holds a ticket. -/
theorem composed_ofCapacity (capacity : Nat) : (ofCapacity capacity).Composed where
  calm order listed := by cases listed
  orderly := orderly_ofCapacity capacity

/-- Somebody who neither pushes nor orders anything leaves both as they are. -/
theorem Composed.elsewhere (composed : traffic.Composed) (orders : later.orders = traffic.orders)
    (same : later.pushes = traffic.pushes) (spares : traffic.queue.Spares later.queue) :
    later.Composed :=
  ⟨fun order listed => composed.calm order (orders ▸ listed),
    composed.orderly.elsewhere same spares⟩

/-- What is left as it is by those who push, close or answer for what was handed out. -/
structure Kept (traffic later : Traffic) : Prop where
  composed : later.Composed
  polls : later.polls = traffic.polls
  departed : later.departed = traffic.departed
  suspended : traffic.Suspended → later.Suspended ∧ later.accepted = traffic.accepted
  called : traffic.Shut → later.Called

/-- What nothing has happened to is left as it is. -/
theorem Kept.refl (composed : traffic.Composed) : traffic.Kept traffic :=
  ⟨composed, rfl, rfl, fun suspended => ⟨suspended, rfl⟩, (·.called)⟩

/-- A queue that is shut stays shut, and accepts nothing. -/
theorem Kept.shut (kept : traffic.Kept later) (shut : traffic.Shut) :
    later.Shut ∧ later.accepted = traffic.accepted := by
  obtain ⟨still, same⟩ := kept.suspended shut.toSuspended
  exact ⟨⟨still, kept.called shut⟩, same⟩

/-- What is left as it is by one stretch and by the next is left so by both. -/
theorem Kept.trans (first : traffic.Kept middle) (second : middle.Kept later) :
    traffic.Kept later where
  composed := second.composed
  polls := second.polls.trans first.polls
  departed := second.departed.trans first.departed
  suspended suspended := by
    obtain ⟨still, same⟩ := first.suspended suspended
    obtain ⟨last, also⟩ := second.suspended still
    exact ⟨last, also.trans same⟩
  called shut := second.called (first.shut shut).1

/-- Nothing was handed out meanwhile. -/
theorem Kept.handed (kept : traffic.Kept later) : later.handed = traffic.handed := by
  rw [Traffic.handed, Traffic.handed, kept.departed]

/-- Whoever pushes or closes takes nothing out of the queue, and puts nothing in while it is
suspended. -/
theorem Outside.kept (outside : traffic.Outside later) (composed : traffic.Composed) :
    traffic.Kept later := by
  obtain ⟨moved, polls, settled⟩ := outside
  obtain ⟨orderly, called⟩ := composed.orderly.move moved
  suffices both : later.departed = traffic.departed ∧
      (traffic.Suspended → later.Suspended ∧ later.accepted = traffic.accepted) from
    ⟨⟨settled, orderly⟩, polls, both.1, both.2, fun shut => called shut.suspended shut.called⟩
  cases moved with
  | arrive | request | order => exact ⟨rfl, fun ⟨suspended, bare⟩ => ⟨⟨suspended, bare⟩, rfl⟩⟩
  | push before after push queue pusher here present stepped =>
    -- A queue that is suspended accepts nothing.
    refine ⟨rfl, fun ⟨suspended, bare⟩ => ?_⟩
    obtain ⟨still, same, unqueued⟩ := (Pusher.step?_steps stepped).refused_of_suspended suspended
    exact ⟨⟨still, same.trans bare⟩, by simp [unqueued]⟩
  | leavePush before after push here present free =>
    refine ⟨rfl, fun ⟨suspended, bare⟩ => ⟨?_, rfl⟩⟩
    cases push.pusher <;> exact ⟨suspended, bare⟩
  | poll before after poll queue poller here present stepped =>
    -- A call that polls would have come further.
    rw [here] at polls
    exact absurd polls (Poller.step?_steps stepped).polls_ne
  | leavePoll before after poll here present free =>
    refine ⟨rfl, fun ⟨suspended, bare⟩ => ⟨?_, rfl⟩⟩
    cases poll.poller <;> exact ⟨suspended, bare⟩
  | chore before after chore rest here =>
    -- Nothing but a suspension takes anything away, and nothing but a resumption ends one.
    have closes := composed.calm _ (here ▸ List.mem_append_right _ List.mem_cons_self) chore
      List.mem_cons_self
    simp only [Chore.closing, List.mem_cons, List.not_mem_nil, or_false] at closes
    rcases closes with rfl | rfl | rfl <;>
      exact ⟨List.append_nil _, fun ⟨suspended, bare⟩ => ⟨⟨suspended, bare⟩, rfl⟩⟩

/-- A queue that is shut stays so whatever somebody does who neither pushes nor resumes it. -/
theorem Shut.elsewhere (shut : traffic.Shut) (same : later.pushes = traffic.pushes)
    (spares : traffic.queue.Spares later.queue)
    (suspended : later.queue.suspended = traffic.queue.suspended)
    (items : later.queue.items = traffic.queue.items) : later.Shut :=
  ⟨⟨suspended.trans shut.suspended, items.trans shut.bare⟩, shut.called.elsewhere same spares⟩

/-- A call that polls finds nothing. -/
theorem Suspended.poll (suspended : traffic.Suspended) {most : Nat} {queue : Queue}
    {poller next : Poller} (steps : poller.Steps most traffic.queue queue next) :
    queue.suspended = true ∧ queue.items = [] := by
  -- Only a call that finds items takes any, and there are none.
  cases steps with
  | took ticket filled => exact absurd suspended.bare filled
  | _ => exact ⟨suspended.suspended, suspended.bare⟩

/-- The caller whose item was answered for is told so as soon as it goes on. -/
theorem told_of_answered {queue : Queue} {item : Item} {ack : Nat} {answer : Answer}
    {pusher : Pusher} (stands : pusher.Stands queue item (some ack))
    (known : queue.answer? ack = some answer) :
    (pusher.run queue 2).2 = .finished answer := by
  -- It has two steps to go at most: to announce its item, and to hear the answer.
  cases pusher with
  | arriving | trying | parked => cases stands.2
  | announcing ticket own =>
    cases stands
    have same : Queue.answer? { queue with
        notEmpty := queue.notEmpty.wakeOne
        notFull := queue.notFull.withdraw ticket } ack = some answer := known
    simp [Pusher.run, Pusher.step?, same]
  | awaiting own =>
    cases stands
    simp [Pusher.run, Pusher.step?, known]
  | finished given =>
    rcases stands with ⟨none, _⟩ | ⟨own, same, given⟩
    · cases none
    · cases same
      cases known.symm.trans given
      rfl

/-- Somebody gives acknowledgements one after another, between which others may push or close. -/
inductive Hands (answer : Answer) : List Nat → Traffic → Traffic → Prop where
  | done (traffic : Traffic) : Hands answer [] traffic traffic
  | outside {acks : List Nat} {traffic middle later : Traffic} (outside : traffic.Outside middle)
      (rest : Hands answer acks middle later) : Hands answer acks traffic later
  | give {ack : Nat} {acks : List Nat} {traffic later : Traffic}
      (rest : Hands answer acks { traffic with queue := traffic.queue.settle answer ack } later) :
    Hands answer (ack :: acks) traffic later

/-- With nobody in between, all are settled in a row. -/
theorem hands_settleAll (answer : Answer) (acks : List Nat) (traffic : Traffic) :
    Hands answer acks traffic { traffic with queue := traffic.queue.settleAll answer acks } := by
  -- One after the other, from whatever traffic there is by then.
  induction acks generalizing traffic with
  | nil => exact .done traffic
  | cons ack rest ih => exact .give (ih _)

/-- The acknowledgements are of items that were handed out. -/
def Holds (traffic : Traffic) (acks : List Nat) : Prop :=
  ∀ ack ∈ acks, ∃ pending, .handed pending ∈ traffic.departed ∧ pending.ack = ack

/-- To answer for what was handed out disturbs nobody else. -/
theorem Hands.kept {answer : Answer} {acks : List Nat} (hands : Hands answer acks traffic later)
    (open_ : answer ≠ .error .closed) (sound : traffic.Sound) (composed : traffic.Composed)
    (holds : traffic.Holds acks) : later.Sound ∧ traffic.Kept later := by
  -- The induction is on what happens, one gift or one foreign move at a time.
  induction hands with
  | done traffic => exact ⟨sound, .refl composed⟩
  | outside outside rest ih =>
    -- What is held was handed out before, and has not come back since.
    have first := outside.kept composed
    have still := fun ack held => first.departed ▸ holds ack held
    obtain ⟨last, further⟩ := ih (sound.move outside.moved) first.composed still
    exact ⟨last, first.trans further⟩
  | @give ack acks traffic later rest ih =>
    obtain ⟨pending, left, rfl⟩ := holds ack List.mem_cons_self
    have allowed : (Departure.handed pending).Allows answer := open_
    -- Only the answers change.
    have spares := traffic.queue.spares_settle answer pending.ack
    have settled : traffic.Kept
        { traffic with queue := traffic.queue.settle answer pending.ack } := by
      refine ⟨composed.elsewhere rfl rfl spares, rfl, rfl, fun suspended => ⟨⟨?_, ?_⟩, rfl⟩,
        fun shut => shut.called.elsewhere rfl spares⟩
      · exact (Queue.settle_suspended _ _ _).trans suspended.suspended
      · exact (Queue.settle_stock _ _ _).2.1.trans suspended.bare
    obtain ⟨last, further⟩ := ih (sound.settle left allowed) settled.composed fun other held =>
      holds other (List.mem_cons_of_mem _ held)
    exact ⟨last, settled.trans further⟩

/-- What has become of the traffic after one thing that closing, suspending or resuming comes to. -/
def afterChore (traffic : Traffic) (chore : Chore) : Traffic :=
  { traffic with
    queue := (chore.perform traffic.queue).1
    departed := traffic.departed ++ (chore.perform traffic.queue).2.map .withdrawn }

/-- Somebody does one thing after another, between which others may push or close. -/
inductive Performs : List Chore → Traffic → Traffic → Prop where
  | done (traffic : Traffic) : Performs [] traffic traffic
  | outside {chores : List Chore} {traffic middle later : Traffic}
      (outside : traffic.Outside middle) (rest : Performs chores middle later) :
    Performs chores traffic later
  | chore {chore : Chore} {chores : List Chore} {traffic later : Traffic}
      (rest : Performs (Chore.remaining (chore.perform traffic.queue).2 chores)
        (traffic.afterChore chore) later) :
    Performs (chore :: chores) traffic later

/-- The traffic with one more call that has so much left to do. -/
def ordering (traffic : Traffic) (chores : List Chore) : Traffic :=
  { traffic with orders := chores :: traffic.orders }

/-- A move can be made beside one more call. -/
theorem Move.ordering (moved : traffic.Move later) (chores : List Chore) :
    (traffic.ordering chores).Move (later.ordering chores) := by
  -- Nobody looks at what the others have left to do.
  cases moved with
  | arrive item => exact .arrive _ item
  | push before after push queue pusher here present stepped =>
    exact .push (traffic.ordering chores) before after push queue pusher here present stepped
  | leavePush before after push here present free =>
    exact .leavePush (traffic.ordering chores) before after push here present free
  | request most => exact .request _ most
  | poll before after poll queue poller here present stepped =>
    exact .poll (traffic.ordering chores) before after poll queue poller here present stepped
  | leavePoll before after poll here present free =>
    exact .leavePoll (traffic.ordering chores) before after poll here present free
  | order other known => exact .order (traffic.ordering chores) other known
  | chore before after chore rest here =>
    exact .chore (traffic.ordering chores) (chores :: before) after chore rest
      (congrArg (chores :: ·) here)

/-- One of the things to be done next is a move of the call that does them. -/
theorem move_afterChore (traffic : Traffic) (chore : Chore) (chores : List Chore) :
    (traffic.ordering (chore :: chores)).Move
      ((traffic.afterChore chore).ordering
        (Chore.remaining (chore.perform traffic.queue).2 chores)) :=
  .chore (traffic.ordering (chore :: chores)) [] traffic.orders chore chores rfl

/-- None of these things hands an item out. -/
theorem handed_afterChore (traffic : Traffic) (chore : Chore) :
    (traffic.afterChore chore).handed = traffic.handed := by
  -- Whatever a mark takes away is withdrawn, which is no handing out.
  have unhanded : ∀ taken : List Pending,
      (taken.map Departure.withdrawn).filterMap (·.handed?) = [] := by
    intro taken
    rw [List.filterMap_map]
    exact List.filterMap_eq_nil_iff.mpr fun _ _ => rfl
  rw [handed, afterChore, List.filterMap_append, unhanded, List.append_nil, handed]

/-- What suspending and resuming leave as it is. -/
structure Spared (traffic later : Traffic) : Prop where
  composed : later.Composed
  polls : later.polls = traffic.polls
  handed : later.handed = traffic.handed
  departed : ∀ departure ∈ traffic.departed, departure ∈ later.departed

/-- Whoever has things to do does them soundly. -/
theorem Performs.spared {chores : List Chore} (performs : Performs chores traffic later)
    (sound : (traffic.ordering chores).Sound) (composed : traffic.Composed) :
    (later.ordering []).Sound ∧ traffic.Spared later := by
  -- The induction is on what is done, with this call as one of those that have things to do.
  induction performs with
  | done traffic => exact ⟨sound, composed, rfl, rfl, fun _ left => left⟩
  | @outside chores traffic middle later outside rest ih =>
    -- The others move beside this call.
    have kept := outside.kept composed
    obtain ⟨last, spared⟩ := ih (sound.move (outside.moved.ordering chores)) kept.composed
    exact ⟨last, spared.composed, spared.polls.trans kept.polls, spared.handed.trans kept.handed,
      fun departure left => spared.departed departure (kept.departed ▸ left)⟩
  | @chore chore chores traffic later rest ih =>
    obtain ⟨last, spared⟩ := ih (sound.move (traffic.move_afterChore chore chores))
      (composed.elsewhere rfl rfl (chore.spares_perform _))
    exact ⟨last, spared.composed, spared.polls,
      spared.handed.trans (traffic.handed_afterChore chore),
      fun departure left => spared.departed departure (List.mem_append_left _ left)⟩

/-- A call that has nobody to refuse yet is begun and done soundly. -/
theorem Performs.sound {chores : List Chore} (performs : Performs chores traffic later)
    (fresh : chores.filterMap (·.refusal?) = []) (sound : traffic.Sound)
    (composed : traffic.Composed) : later.Sound ∧ traffic.Spared later := by
  -- With nobody to refuse, this call adds nothing to what is about to be refused.
  have same : Chore.refusals (chores :: traffic.orders) = traffic.refusals := by
    rw [Chore.refusals, List.flatMap_cons, fresh]
    rfl
  obtain ⟨last, spared⟩ := performs.spared (sound.of_orders same) composed
  -- A call that has nothing left to do may be forgotten.
  exact ⟨last.of_orders (by rfl), spared⟩

/-- How far a queue has come to be shut, when this is left to be done. -/
inductive Shutting (traffic : Traffic) : List Chore → Prop where
  | begun {chores : List Chore} (due : .wakePushers ∈ chores) :
    Shutting traffic (.markSuspended :: chores)
  | marked {chores : List Chore} (suspended : traffic.Suspended) (due : .wakePushers ∈ chores) :
    Shutting traffic chores
  | shut {chores : List Chore} (shut : traffic.Shut) : Shutting traffic chores

/-- Once the mark is set, nothing that is left to be done takes it back. -/
theorem Suspended.afterChore (suspended : traffic.Suspended) {chore : Chore}
    (stays : chore ≠ .resume) : (traffic.afterChore chore).Suspended := by
  -- Answers that are settled do not concern the mark.
  cases chore with
  | resume => exact absurd rfl stays
  | refuse ack =>
    exact ⟨(Queue.settle_suspended _ _ _).trans suspended.suspended,
      (Queue.settle_stock _ _ _).2.1.trans suspended.bare⟩
  | markSuspended => exact ⟨rfl, rfl⟩
  | _ => exact ⟨suspended.suspended, suspended.bare⟩

/-- A queue that is shut stays shut, whatever is done but to resume it. -/
theorem Shut.afterChore (shut : traffic.Shut) {chore : Chore} (stays : chore ≠ .resume) :
    (traffic.afterChore chore).Shut :=
  ⟨shut.toSuspended.afterChore stays, shut.called.elsewhere rfl (chore.spares_perform _)⟩

/-- One thing after another, the queue comes to be shut: it is marked first, and then all who wait
for room are called. -/
theorem Shutting.chore {chore : Chore} {chores : List Chore}
    (shutting : traffic.Shutting (chore :: chores)) (orderly : traffic.Orderly)
    (stays : chore ≠ .resume) :
    (traffic.afterChore chore).Shutting
      (Chore.remaining (chore.perform traffic.queue).2 chores) := by
  cases shutting with
  | begun due => exact .marked ⟨rfl, rfl⟩ (List.mem_append_right _ due)
  | marked suspended due =>
    -- From the call to all who wait on, nobody can begin to wait.
    rcases List.mem_cons.mp due with rfl | due
    · exact .shut ⟨suspended.afterChore stays, orderly.called rfl rfl⟩
    · exact .marked (suspended.afterChore stays) (List.mem_append_right _ due)
  | shut shut => exact .shut (shut.afterChore stays)

/-- Whoever pushes meanwhile does not keep the queue from it. -/
theorem Shutting.kept {chores : List Chore} (shutting : traffic.Shutting chores)
    (kept : traffic.Kept later) : later.Shutting chores := by
  cases shutting with
  | begun due => exact .begun due
  | marked suspended due => exact .marked (kept.suspended suspended).1 due
  | shut shut => exact .shut (kept.shut shut).1

/-- Whoever is to suspend and not to resume leaves the queue shut. If it was before, nothing has
been queued meanwhile. -/
theorem Performs.shut {chores : List Chore} (performs : Performs chores traffic later)
    (composed : traffic.Composed) (stays : ∀ chore ∈ chores, chore ≠ .resume)
    (shutting : traffic.Shutting chores) :
    later.Shut ∧ (traffic.Shut → later.accepted = traffic.accepted) := by
  -- The induction is on what happens, with how far the queue has come as its invariant.
  induction performs with
  | done traffic =>
    refine ⟨?_, fun _ => rfl⟩
    cases shutting with
    | marked _ due => cases due
    | shut shut => exact shut
  | outside outside rest ih =>
    have kept := outside.kept composed
    obtain ⟨last, unchanged⟩ := ih kept.composed stays (shutting.kept kept)
    exact ⟨last, fun shut => (unchanged (kept.shut shut).1).trans (kept.shut shut).2⟩
  | @chore chore chores traffic later rest ih =>
    obtain ⟨first, others⟩ := List.forall_mem_cons.mp stays
    -- To refuse what was taken away is not to resume the queue either.
    have further : ∀ other ∈ Chore.remaining (chore.perform traffic.queue).2 chores,
        other ≠ .resume := by
      intro other due
      rcases List.mem_append.mp due with refuses | due
      · obtain ⟨pending, _, rfl⟩ := List.mem_map.mp refuses
        simp
      · exact others other due
    obtain ⟨last, unchanged⟩ := ih (composed.elsewhere rfl rfl (chore.spares_perform _)) further
      (shutting.chore composed.orderly first)
    exact ⟨last, fun shut => unchanged (shut.afterChore first)⟩

end Traffic

end BatchFlow.Handoff
