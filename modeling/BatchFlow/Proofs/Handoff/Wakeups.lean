import BatchFlow.Proofs.Handoff.PollerTickets

/-! A hand-off queue with everybody who calls it, where whoever was woken looks again before it can
leave. What everybody else does leaves nobody waiting for what is there already. -/

namespace BatchFlow.Handoff

/-- An item was queued, and nobody has been told yet. -/
def Pusher.announces : Pusher → Bool
  | announcing .. => true
  | arriving _ | trying .. | parked .. | awaiting _ | finished _ => false

/-- The poller is about to look for items. -/
def Poller.looks : Poller → Bool
  | looking _ => true
  | starting | parked _ | telling .. | finished _ => false

/-- Items were taken, and those who wait for room have not been told yet. -/
def Poller.tells : Poller → Bool
  | telling .. => true
  | starting | looking _ | parked _ | finished _ => false

/-- The caller is there and has queued an item that nobody has been told of yet. -/
def Push.announces (push : Push) : Bool := push.present && push.pusher.announces

/-- The caller is there and about to look for items. -/
def Poll.looks (poll : Poll) : Bool := poll.present && poll.poller.looks

/-- The caller is there and about to tell those who wait for room. -/
def Poll.tells (poll : Poll) : Bool := poll.present && poll.poller.tells

namespace Chore

/-- Whether something is about to be refused. -/
def refuses : Chore → Bool
  | markClosed | markSuspended => true
  | refuse _ | wakePushers | wakePollers | resume => false

/-- Whoever marks the queue wakes everybody at both gates afterwards. -/
def Announced : List Chore → Prop
  | [] => True
  | chore :: rest =>
    (chore.refuses = true → wakePushers ∈ rest ∧ wakePollers ∈ rest) ∧ Announced rest

/-- Each of the orders that are known calls everybody once it has marked the queue. -/
theorem announced_of_known {chores : List Chore}
    (known : chores = closing ∨ chores = suspending ∨ chores = resuming) : Announced chores := by
  rcases known with rfl | rfl | rfl <;> simp [closing, suspending, resuming, Announced, refuses]

/-- What is left to do after items were taken away still calls everybody. -/
theorem Announced.remaining {taken : List Pending} {rest : List Chore}
    (announced : Announced rest) :
    Announced (Chore.remaining taken rest) := by
  -- Refusing an item that was taken away marks nothing.
  induction taken with
  | nil => exact announced
  | cons pending others ih => exact ⟨by simp [refuses], ih⟩

/-- What was due after a chore still is, behind the refusals that it brings. -/
theorem mem_remaining {chore : Chore} {taken : List Pending} {rest : List Chore}
    (due : chore ∈ rest) : chore ∈ remaining taken rest :=
  List.mem_append_right _ due

end Chore

/-- What is settled changes nothing but the answers. -/
theorem Queue.exists_settle (queue : Queue) (answer : Answer) (ack : Nat) :
    ∃ answers, queue.settle answer ack = { queue with answers } := by
  unfold settle
  split
  · exact ⟨queue.answers, rfl⟩
  · exact ⟨_, rfl⟩

/-- A caller that gives up gives its ticket back, and does nothing else. -/
theorem Pusher.exists_giveUp (pusher : Pusher) (queue : Queue) :
    ∃ notFull, pusher.giveUp queue = { queue with notFull } := by
  cases pusher <;> exact ⟨_, rfl⟩

/-- A caller that can leave has nothing to announce. -/
theorem Pusher.MayLeave.announces {pusher : Pusher} (free : pusher.MayLeave) :
    pusher.announces = false := by
  cases pusher <;> first | rfl | cases free

/-- Nobody begins to wait for room unless the queue is full and accepts items. -/
theorem Pusher.crowded_of_parked {queue later : Queue} {pusher : Pusher} {item : Item}
    {ticket : Nat} (stepped : pusher.step? queue = some (later, .parked item ticket)) :
    later = queue ∧ queue.isFull = true ∧ queue.isRefusing = false := by
  cases Pusher.step?_steps stepped with
  | full item ticket crowded =>
    refine ⟨rfl, decide_eq_true crowded, ?_⟩
    cases refusing : queue.isRefusing with
    | false => rfl
    | true =>
      -- A queue that refuses would have done so first.
      simp [step?, Queue.tryPush, refusing] at stepped

/-- Nobody begins to wait for an item unless there is none and the queue accepts items. -/
theorem Poller.bare_of_parked {most : Nat} {queue later : Queue} {poller : Poller} {ticket : Nat}
    (stepped : poller.step? most queue = some (later, .parked ticket)) :
    later = queue ∧ queue.items = [] ∧ queue.isRefusing = false := by
  -- Only somebody who finds no items begins to wait, and a refusal would have come first.
  cases Poller.step?_steps stepped with
  | empty ticket bare =>
    refine ⟨rfl, bare, ?_⟩
    cases refusing : queue.isRefusing with
    | false => rfl
    | true => simp [step?, Queue.take_of_nil most bare, refusing] at stepped

namespace Traffic

variable {traffic later : Traffic}

/-- Whoever waits for items was called. -/
def PollersCalled (traffic : Traffic) : Prop := ∀ poll ∈ traffic.polls, poll.Called traffic.queue

/-- There is good reason to wait for room, or those who do are about to be called. -/
def Crowded (traffic : Traffic) : Prop :=
  (traffic.queue.isFull = true ∧ traffic.queue.isRefusing = false) ∨
  (∃ poll ∈ traffic.polls, poll.tells = true) ∨
  ∃ order ∈ traffic.orders, Chore.wakePushers ∈ order

/-- The queue accepts items, or those who wait for any are about to be called. -/
def Open (traffic : Traffic) : Prop :=
  traffic.queue.isRefusing = false ∨ ∃ order ∈ traffic.orders, Chore.wakePollers ∈ order

/-- No call on the queue can go on by itself. What may still happen is that a call begins, that one
is given up, or that an item is answered for which was handed out. -/
def Still (traffic : Traffic) : Prop :=
  (∀ push ∈ traffic.pushes, push.present = true → push.pusher.step? traffic.queue = none) ∧
  (∀ poll ∈ traffic.polls, poll.present = true →
    poll.poller.step? poll.most traffic.queue = none) ∧
  ∀ order ∈ traffic.orders, order = []

end Traffic

/-- Traffic, with the places of those polls that were woken and have not looked again yet. -/
structure WakingTraffic where
  traffic : Traffic
  roused : List Nat

/-- The polls that are about to look again once the one at a place has come to this point. -/
def Poller.rouse (place : Nat) (roused : List Nat) : Poller → List Nat
  | starting => place :: roused
  | looking _ => roused.erase place
  | parked _ | telling .. | finished _ => roused

namespace WakingTraffic

/-- A new queue, which nobody has called yet. -/
def ofCapacity (capacity : Nat) : WakingTraffic := ⟨.ofCapacity capacity, []⟩

/-- What can happen next. Nothing comes between a poll's being woken and its next look, so that it
is not given up there. -/
inductive Step : WakingTraffic → WakingTraffic → Prop where
  /-- Somebody pushes, closes, suspends or resumes, or answers for what was handed out. -/
  | aside {waking : WakingTraffic} {traffic : Traffic} (step : waking.traffic.Step traffic)
      (polls : traffic.polls = waking.traffic.polls) : Step waking ⟨traffic, waking.roused⟩
  | request {waking : WakingTraffic} (most : Nat) :
    Step waking
      { waking with traffic.polls := waking.traffic.polls ++ [⟨most, .starting, true⟩] }
  | poll {waking : WakingTraffic} (before after : List Poll) {poll : Poll} {queue : Queue}
      {poller : Poller}
      (here : waking.traffic.polls = before ++ poll :: after) (present : poll.present = true)
      (stepped : poll.poller.step? poll.most waking.traffic.queue = some (queue, poller)) :
    Step waking
      ⟨{ waking.traffic with
          queue
          polls := before ++ { poll with poller } :: after
          departed := waking.traffic.departed ++ poller.taken.map .handed },
        poller.rouse before.length waking.roused⟩
  | leave {waking : WakingTraffic} (before after : List Poll) {poll : Poll}
      (here : waking.traffic.polls = before ++ poll :: after) (present : poll.present = true)
      (free : poll.poller.MayLeave) (calm : before.length ∉ waking.roused) :
    Step waking
      { waking with
        traffic.queue := poll.poller.giveUp waking.traffic.queue
        traffic.polls := before ++ { poll with present := false } :: after }

/-- What can come of a new queue. -/
inductive Reachable (capacity : Nat) : WakingTraffic → Prop where
  | start : Reachable capacity (ofCapacity capacity)
  | next {waking later : WakingTraffic} (reached : Reachable capacity waking)
      (step : Step waking later) : Reachable capacity later

variable {waking later : WakingTraffic}

/-- What is left of such a step without those who were woken is a step of the traffic. -/
theorem Step.traffic (step : Step waking later) : waking.traffic.Step later.traffic := by
  -- Each step names the one that the traffic takes, besides what it says of those who were woken.
  cases step with
  | aside step => exact step
  | request most => exact .move (.request _ most)
  | poll before after here present stepped =>
    exact .move (.poll _ before after _ _ _ here present stepped)
  | leave before after here present free =>
    exact .move (.leavePoll _ before after _ here present free)

/-- All that holds of traffic at any time holds of it while somebody is woken. -/
theorem Reachable.traffic {capacity : Nat} (reached : Reachable capacity waking) :
    Traffic.Reachable capacity waking.traffic := by
  induction reached with
  | start => exact .start
  | next _ step ih => exact ih.next step.traffic

/-- How many callers are going to see to the items that are queued, or to tell somebody who does. -/
def alert (waking : WakingTraffic) : Nat :=
  waking.traffic.pushes.countP (·.announces) + waking.traffic.queue.notEmpty.singles +
    waking.traffic.polls.countP (·.looks) + waking.roused.length

/-- Each queued item is seen to, and so is a queue that accepts no more. -/
structure Provided (waking : WakingTraffic) : Prop where
  enough : waking.traffic.queue.items.length ≤ waking.alert
  open_ : waking.traffic.Open

/-- What holds at any time: nobody is forgotten, and whoever waits is called, has reason to wait or
will be seen to. -/
structure Wakeful (waking : WakingTraffic) : Prop where
  orderly : waking.traffic.Orderly
  seated : waking.traffic.Seated
  announced : ∀ order ∈ waking.traffic.orders, Chore.Announced order
  distinct : waking.roused.Nodup
  roused : ∀ place ∈ waking.roused, ∃ poll, waking.traffic.polls[place]? = some poll ∧
    poll.present = true ∧ poll.poller = .starting
  room : waking.traffic.Called ∨ waking.traffic.Crowded
  items : waking.traffic.PollersCalled ∨ waking.Provided

end WakingTraffic

/-- Whatever one who pushes does, a full queue that accepts items stays so. -/
theorem Pusher.Steps.crowded {queue later : Queue} {pusher next : Pusher}
    (steps : pusher.Steps queue later next) (full : queue.isFull = true)
    (accepting : queue.isRefusing = false) : later.isFull = true ∧ later.isRefusing = false := by
  -- Nothing is queued where there is no room, so nothing else changes.
  cases steps with
  | queued item ticket _ room =>
    have crowded : queue.capacity ≤ queue.items.length := of_decide_eq_true full
    omega
  | _ => exact ⟨full, accepting⟩

/-- Nobody who pushes closes or suspends the queue, or forgets anybody who waits for an item. -/
theorem Pusher.Steps.spares_pollers {queue later : Queue} {pusher next : Pusher}
    (steps : pusher.Steps queue later next) :
    later.isRefusing = queue.isRefusing ∧
      ∀ ticket, queue.notEmpty.Spares later.notEmpty ticket := by
  -- Only a caller that announces its item touches the gate for items, and it calls somebody there.
  cases steps with
  | announced => exact ⟨rfl, Gate.spares_wakeOne _⟩
  | _ => exact ⟨rfl, Gate.Spares.refl _⟩

/-- The number of a truth value, as counting along a list has it. -/
theorem toNat_eq_ite (truth : Bool) : truth.toNat = if truth = true then 1 else 0 := by
  cases truth <;> rfl

/-- Whoever queues an item is going to announce it, and whoever announces one calls somebody who
waits. -/
theorem Pusher.Steps.provides {queue later : Queue} {pusher next : Pusher}
    (steps : pusher.Steps queue later next) (waits : later.notEmpty.waiting ≠ []) :
    later.items.length + pusher.announces.toNat + queue.notEmpty.singles ≤
      queue.items.length + next.announces.toNat + later.notEmpty.singles := by
  -- Only two steps of a push matter: one queues the item, and the other one calls somebody.
  cases steps with
  | queued item ticket accepting room =>
    simp only [Queue.joinedBy, List.length_append, List.length_singleton, Pusher.announces,
      Bool.toNat_false, Bool.toNat_true]
    omega
  | announced ticket ack =>
    have called := Gate.singles_wakeOne waits
    simp only [Pusher.announces, Bool.toNat_false, Bool.toNat_true]
    omega
  | _ => exact Nat.le_refl _

/-- Nothing that is done to a queue as a whole makes it forget who waits for an item. -/
theorem Chore.spares_pollers (chore : Chore) (queue : Queue) (ticket : Nat) :
    queue.notEmpty.Spares (chore.perform queue).1.notEmpty ticket := by
  -- A mark, an answer and a call to those who push leave the gate for items alone.
  cases chore with
  | wakePollers => exact Gate.spares_wakeAll ..
  | refuse ack =>
    obtain ⟨answers, same⟩ := queue.exists_settle (.error .closed) ack
    rw [perform, same]
    exact .refl _ _
  | _ => exact .refl _ _

/-- Nothing that is done to a queue as a whole queues an item or takes a call away. -/
theorem Chore.lessens (chore : Chore) (queue : Queue) :
    (chore.perform queue).1.items.length ≤ queue.items.length ∧
      (chore.perform queue).1.notEmpty.singles = queue.notEmpty.singles := by
  cases chore with
  | markSuspended => exact ⟨Nat.zero_le _, rfl⟩
  | wakePollers => exact ⟨Nat.le_refl _, Gate.singles_wakeAll _⟩
  -- An answer that is settled changes neither the items nor the calls.
  | refuse ack =>
    obtain ⟨answers, same⟩ := queue.exists_settle (.error .closed) ack
    rw [perform, same]
    exact ⟨Nat.le_refl _, rfl⟩
  | _ => exact ⟨Nat.le_refl _, rfl⟩

/-- What does not mark a queue leaves one that is full and accepts items as it is. -/
theorem Chore.harmless {chore : Chore} (harmless : chore.refuses = false) (queue : Queue) :
    (chore.perform queue).1.isFull = queue.isFull ∧
      (queue.isRefusing = false → (chore.perform queue).1.isRefusing = false) := by
  cases chore with
  | markClosed | markSuspended => cases harmless
  | refuse ack =>
    obtain ⟨answers, same⟩ := queue.exists_settle (.error .closed) ack
    rw [perform, same]
    exact ⟨rfl, id⟩
  -- A queue that is resumed accepts items unless it was closed.
  | resume =>
    refine ⟨rfl, fun accepting => ?_⟩
    simp only [Queue.isRefusing, Bool.or_eq_false_iff] at accepting
    simp [perform, Queue.resume, Queue.isRefusing, accepting.1]
  | _ => exact ⟨rfl, id⟩

namespace Traffic

variable {traffic later : Traffic} {before after : List Poll} {poll next : Poll}

/-- Whatever somebody does who does not poll, those who wait for an item stay called if the gate
forgets nobody. -/
theorem PollersCalled.elsewhere (called : traffic.PollersCalled)
    (same : later.polls = traffic.polls)
    (spares : ∀ ticket, traffic.queue.notEmpty.Spares later.queue.notEmpty ticket) :
    later.PollersCalled := by
  intro poll member present ticket parked
  exact (spares ticket).woken (called poll (same ▸ member) present ticket parked)

/-- What one of those who poll does is nothing to the tickets of the others. -/
theorem Seated.called_replace (seated : traffic.Seated)
    (here : traffic.polls = before ++ poll :: after)
    (there : later.polls = before ++ next :: after)
    (spares : ∀ ticket, poll.ticket? ≠ some ticket →
      traffic.queue.notEmpty.Spares later.queue.notEmpty ticket)
    (fine : next.Called later.queue) (called : traffic.PollersCalled) : later.PollersCalled := by
  -- The caller itself was looked at, and the others hold other tickets.
  intro other member present ticket parked
  rw [there, List.mem_append, List.mem_cons] at member
  rcases or_left_comm.mp member with rfl | others
  · exact fine present ticket parked
  · have listed : other ∈ before ++ after := List.mem_append.mpr others
    have held : other.ticket? = some ticket := by
      simp [Poll.ticket?, present, parked, Poller.ticket?]
    have apart : poll.ticket? ≠ some ticket := by
      intro own
      exact seated.ticket_ne here own listed held
    have before : other ∈ traffic.polls := by
      rw [here]
      grind
    exact (spares ticket apart).woken (called other before present ticket parked)

/-- A call to everybody reaches whoever waits for an item. -/
theorem Seated.called (seated : traffic.Seated) (same : later.polls = traffic.polls)
    (all : later.queue.notEmpty = traffic.queue.notEmpty.wakeAll) : later.PollersCalled := by
  -- Whoever waits holds a ticket, and is known at the gate by it.
  intro poll member present ticket parked
  rw [all, Gate.isWoken_wakeAll, ← Gate.mem_row, seated.row.mem_iff]
  have held : poll.ticket? = some ticket := by
    simp [Poll.ticket?, present, parked, Poller.ticket?]
  exact mem_pollTickets (same ▸ member) held

/-- If somebody who waits for an item was not called, the gate has somebody to call. -/
theorem Seated.waiting_ne_nil (seated : traffic.Seated) (forgotten : ¬ traffic.PollersCalled) :
    traffic.queue.notEmpty.waiting ≠ [] := by
  intro nobody
  -- Otherwise everybody who waits would be among those who were called.
  refine forgotten fun poll member present ticket parked => ?_
  have held : poll.ticket? = some ticket := by
    simp [Poll.ticket?, present, parked, Poller.ticket?]
  have known := Gate.mem_row.mp (seated.row.mem_iff.mpr (mem_pollTickets member held))
  simpa [Gate.Knows, nobody] using known

end Traffic

namespace WakingTraffic

variable {waking later : WakingTraffic} {traffic : Traffic}

/-- At a new queue nobody waits, and nobody was woken. -/
theorem wakeful_ofCapacity (capacity : Nat) : (ofCapacity capacity).Wakeful where
  orderly := Traffic.orderly_ofCapacity capacity
  seated := Traffic.seated_ofCapacity capacity
  announced order listed := by cases listed
  distinct := List.nodup_nil
  roused place listed := by cases listed
  room := .inl fun push member => by cases member
  items := .inl fun poll member => by cases member

/-- Every step leaves those who push with their tickets. -/
theorem Wakeful.orderly_step (wakeful : waking.Wakeful) (step : waking.traffic.Step traffic) :
    traffic.Orderly := by
  -- Answers that are settled do not concern the gates.
  cases step with
  | move moved => exact (wakeful.orderly.move moved).1
  | answer pending answer holds open_ =>
    exact wakeful.orderly.elsewhere rfl (Queue.spares_settle ..)

/-- Everybody stays provided for when somebody does something who does not poll, if the gate for
items forgets nobody and both the room and the items are still seen to. -/
theorem Wakeful.aside (wakeful : waking.Wakeful) (step : waking.traffic.Step traffic)
    (polls : traffic.polls = waking.traffic.polls)
    (row : traffic.queue.notEmpty.row.Perm waking.traffic.queue.notEmpty.row ∧
      waking.traffic.queue.nextTicket ≤ traffic.queue.nextTicket)
    (spares : ∀ ticket, waking.traffic.queue.notEmpty.Spares traffic.queue.notEmpty ticket)
    (announced : ∀ order ∈ traffic.orders, Chore.Announced order)
    (room : traffic.Called ∨ traffic.Crowded)
    (open_ : waking.traffic.Open → traffic.PollersCalled ∨ traffic.Open)
    (enough : waking.traffic.queue.items.length ≤ waking.alert →
      traffic.queue.notEmpty.waiting ≠ [] →
      traffic.queue.items.length ≤ alert ⟨traffic, waking.roused⟩) :
    Wakeful ⟨traffic, waking.roused⟩ := by
  have tickets : traffic.pollTickets = waking.traffic.pollTickets := by
    rw [Traffic.pollTickets, polls, Traffic.pollTickets]
  have seated := wakeful.seated.elsewhere tickets row.1 row.2
  refine ⟨wakeful.orderly_step step, seated, announced, wakeful.distinct,
    polls ▸ wakeful.roused, room, ?_⟩
  -- If everybody was called there is nothing to show, and otherwise somebody waits at the gate.
  by_cases called : traffic.PollersCalled
  · exact .inl called
  · -- Whoever was not called now was not called before either.
    have provided := wakeful.items.resolve_left fun before =>
      called (before.elsewhere polls spares)
    exact .inr ⟨enough provided.enough (seated.waiting_ne_nil called),
      (open_ provided.open_).resolve_left called⟩

/-- Somebody who pushes goes on. -/
theorem Wakeful.push (wakeful : waking.Wakeful) {before after : List Push} {push : Push}
    {queue : Queue} {pusher : Pusher} (here : waking.traffic.pushes = before ++ push :: after)
    (present : push.present = true)
    (stepped : push.pusher.step? waking.traffic.queue = some (queue, pusher)) :
    Wakeful
      ⟨{ waking.traffic with
          queue
          pushes := before ++ push.advance pusher :: after
          accepted := waking.traffic.accepted ++ pusher.queued push.item }, waking.roused⟩ := by
  have steps := Pusher.step?_steps stepped
  obtain ⟨refusing, spares⟩ := steps.spares_pollers
  refine wakeful.aside (.move (.push _ before after push queue pusher here present stepped)) rfl
    steps.row spares wakeful.announced ?_ ?_ ?_
  · -- Only a caller that begins to wait for room could be one that was not called.
    rcases wakeful.room with called | crowded
    · have exchanges : waking.traffic.queue.Exchanges queue push.ticket?
          (push.advance pusher).ticket? := by
        simpa [Push.ticket?, Push.advance, present] using steps.exchanges
      by_cases parked : ∃ item ticket, pusher = .parked item ticket
      · obtain ⟨item, ticket, rfl⟩ := parked
        obtain ⟨rfl, full, accepting⟩ := Pusher.crowded_of_parked stepped
        exact .inr (.inl ⟨full, accepting⟩)
      · refine .inl ((wakeful.orderly.replace here rfl exchanges).2 ?_ called)
        exact fun _ item ticket same => absurd ⟨item, ticket, same⟩ parked
    · refine .inr (crowded.imp_left ?_)
      rintro ⟨full, accepting⟩
      exact steps.crowded full accepting
  · intro open_
    exact .inr (open_.imp_left fun accepting => refusing.trans accepting)
  · -- An item that joins the queue brings somebody who will announce it.
    intro enough waits
    have provides := steps.provides waits
    simp only [toNat_eq_ite] at provides
    simp only [alert, here, List.countP_append, List.countP_cons, Push.announces, Push.advance,
      present, Bool.true_and] at enough ⊢
    omega

/-- Somebody who does something else than poll does not touch the gate for items, or what is
queued. -/
theorem Wakeful.apart (wakeful : waking.Wakeful) (step : waking.traffic.Step traffic)
    (polls : traffic.polls = waking.traffic.polls)
    (gate : traffic.queue.notEmpty = waking.traffic.queue.notEmpty)
    (count : waking.traffic.queue.nextTicket ≤ traffic.queue.nextTicket)
    (items : traffic.queue.items.length ≤ waking.traffic.queue.items.length)
    (announcing : waking.traffic.pushes.countP (·.announces) ≤
      traffic.pushes.countP (·.announces))
    (announced : ∀ order ∈ traffic.orders, Chore.Announced order)
    (room : traffic.Called ∨ traffic.Crowded)
    (open_ : waking.traffic.Open → traffic.Open) : Wakeful ⟨traffic, waking.roused⟩ := by
  refine wakeful.aside step polls ⟨gate ▸ .refl _, count⟩ (fun ticket => gate ▸ .refl _ ticket)
    announced room (.inr ∘ open_) fun enough _ => ?_
  -- The summands that could have changed are those of the callers that push.
  simp only [alert, polls, gate] at enough ⊢
  omega

/-- Somebody who closes, suspends or resumes the queue does one thing of what that comes to. -/
theorem Wakeful.chore (wakeful : waking.Wakeful) {before after : List (List Chore)} {chore : Chore}
    {rest : List Chore} (here : waking.traffic.orders = before ++ (chore :: rest) :: after) :
    Wakeful
      ⟨{ waking.traffic with
          queue := (chore.perform waking.traffic.queue).1
          orders := before ++ Chore.remaining (chore.perform waking.traffic.queue).2 rest :: after
          departed := waking.traffic.departed ++
            (chore.perform waking.traffic.queue).2.map .withdrawn }, waking.roused⟩ := by
  have step := Traffic.Step.move (.chore waking.traffic before after chore rest here)
  -- An order that has a marking ahead has its calls behind, before and after this step.
  have own : Chore.Announced (chore :: rest) := wakeful.announced _ (by simp [here])
  have announced : ∀ order ∈ before ++
      Chore.remaining (chore.perform waking.traffic.queue).2 rest :: after,
      Chore.Announced order := by
    intro order listed
    rcases or_left_comm.mp ((List.mem_append.trans (or_congr_right List.mem_cons)).mp listed) with
      rfl | others
    · exact own.2.remaining
    · exact wakeful.announced order (by rw [here]; grind)
  -- What else an order comes to is still due.
  have due : ∀ other, other ≠ chore → (∃ order ∈ waking.traffic.orders, other ∈ order) →
      ∃ order ∈ before ++ Chore.remaining (chore.perform waking.traffic.queue).2 rest :: after,
        other ∈ order := by
    rintro other differs ⟨order, listed, member⟩
    rw [here, List.mem_append, List.mem_cons] at listed
    rcases or_left_comm.mp listed with rfl | others
    · have later := (List.mem_cons.mp member).resolve_left differs
      exact ⟨_, List.mem_append_right _ List.mem_cons_self, Chore.mem_remaining later⟩
    · exact ⟨order, by grind, member⟩
  -- Whoever has just marked the queue is going to call those at both gates.
  have marked : ∀ other ∈ rest, ∃ order ∈ before ++
      Chore.remaining (chore.perform waking.traffic.queue).2 rest :: after, other ∈ order :=
    fun other member =>
      ⟨_, List.mem_append_right _ List.mem_cons_self, Chore.mem_remaining member⟩
  -- No step of an order adds items or uses a call up.
  obtain ⟨fewer, singles⟩ := chore.lessens waking.traffic.queue
  -- The room: a marking calls those who wait for it later, and what marks nothing leaves it full.
  refine wakeful.aside step rfl (chore.row_perform _) (chore.spares_pollers _) announced ?_ ?_ ?_
  · by_cases wakes : chore = .wakePushers
    · subst wakes
      exact .inl (wakeful.orderly.called rfl rfl)
    · refine wakeful.room.imp (·.elsewhere rfl (chore.spares_perform _)) fun crowded => ?_
      cases refuses : chore.refuses with
      | true => exact .inr (.inr (marked _ (own.1 refuses).1))
      | false =>
        refine crowded.imp ?_ (.imp_right (due _ (Ne.symm wakes)))
        rintro ⟨full, accepting⟩
        obtain ⟨same, kept⟩ := chore.harmless refuses waking.traffic.queue
        exact ⟨same.trans full, kept accepting⟩
  · -- The items: here, too, a marking calls later, and what marks nothing leaves the queue open.
    intro open_
    by_cases wakes : chore = .wakePollers
    · subst wakes
      exact .inl (wakeful.seated.called rfl rfl)
    · refine .inr ?_
      cases refuses : chore.refuses with
      | true => exact .inr (marked _ (own.1 refuses).2)
      | false =>
        exact open_.imp (chore.harmless refuses waking.traffic.queue).2 (due _ (Ne.symm wakes))
  · -- So whatever was enough for the items still is.
    intro enough _
    simp only [alert, singles] at enough ⊢
    omega

/-- Whoever gives up pushing has nothing to announce, and gives its ticket back. -/
theorem Wakeful.leavePush (wakeful : waking.Wakeful) {before after : List Push} {push : Push}
    (here : waking.traffic.pushes = before ++ push :: after) (present : push.present = true)
    (free : push.pusher.MayLeave) :
    Wakeful
      ⟨{ waking.traffic with
          queue := push.pusher.giveUp waking.traffic.queue
          pushes := before ++ { push with present := false } :: after }, waking.roused⟩ := by
  have step := Traffic.Step.move (.leavePush waking.traffic before after push here present free)
  obtain ⟨notFull, same⟩ := push.pusher.exists_giveUp waking.traffic.queue
  -- Whoever may leave had nothing to announce, so that only its ticket counts.
  have silent := free.announces
  have exchanges := push.pusher.exchanges_giveUp waking.traffic.queue
  have held : push.ticket? = push.pusher.ticket? := by simp [Push.ticket?, present]
  rw [same] at step exchanges ⊢
  refine wakeful.apart step rfl rfl (Nat.le_refl _) (Nat.le_refl _) ?_ wakeful.announced ?_ id
  · simp [here, Push.announces, silent]
  · have kept := (wakeful.orderly.replace here rfl (held ▸ exchanges) :
      Traffic.Orderly { waking.traffic with
        queue := { waking.traffic.queue with notFull }
        pushes := before ++ { push with present := false } :: after } ∧ _).2
    exact wakeful.room.imp_left (kept fun present => by cases present)

/-- Everybody stays provided for whatever somebody does who does not poll. -/
theorem Wakeful.others (wakeful : waking.Wakeful) (step : waking.traffic.Step traffic)
    (polls : traffic.polls = waking.traffic.polls) : Wakeful ⟨traffic, waking.roused⟩ := by
  obtain ⟨sitting, roused⟩ := waking
  cases step with
  | answer pending answer holds open_ =>
    obtain ⟨answers, same⟩ := sitting.queue.exists_settle answer pending.ack
    -- One case for each move; the three of those who poll are excluded or would have changed them.
    refine wakeful.apart (.answer _ pending answer holds open_) rfl ?_ ?_ ?_ (Nat.le_refl _)
      wakeful.announced ?_ ?_
    all_goals simp only [same]
    · exact Nat.le_refl _
    · exact Nat.le_refl _
    · exact wakeful.room
    · exact id
  | move moved =>
    have step := Traffic.Step.move moved
    cases moved with
    -- Somebody new waits for nothing yet.
    | arrive item =>
      refine wakeful.apart step rfl rfl (Nat.le_refl _) (Nat.le_refl _) ?_ wakeful.announced ?_ id
      · simp
      · refine wakeful.room.imp_left fun called => called.spare ?_ (.of_eq rfl rfl)
        intro push member
        refine (List.mem_append.mp member).imp_right fun own => ?_
        cases List.mem_singleton.mp own
        exact fun _ item ticket parked => by cases parked
    | push before after push queue pusher here present stepped =>
      exact wakeful.push here present stepped
    | leavePush before after push here present free =>
      exact wakeful.leavePush here present free
    -- A new order comes behind the others, and is one of the three that are known.
    | order chores known =>
      have listed : ∀ order ∈ sitting.orders, order ∈ sitting.orders ++ [chores] :=
        fun order => List.mem_append_left _
      have due : ∀ chore, (∃ order ∈ sitting.orders, chore ∈ order) →
          ∃ order ∈ sitting.orders ++ [chores], chore ∈ order :=
        fun chore ⟨order, member, todo⟩ => ⟨order, listed order member, todo⟩
      refine wakeful.apart step rfl rfl (Nat.le_refl _) (Nat.le_refl _) (Nat.le_refl _) ?_ ?_ ?_
      · intro order member
        rcases List.mem_append.mp member with old | own
        · exact wakeful.announced order old
        · exact List.mem_singleton.mp own ▸ Chore.announced_of_known known
      · exact wakeful.room.imp (·.elsewhere rfl (.of_eq rfl rfl))
          (.imp_right (.imp_right (due _)))
      · exact .imp_right (due _)
    -- The other moves of those who push have been dealt with.
    | chore before after chore rest here => exact wakeful.chore here
    | request most => simp at polls
    | poll before after poll queue poller here present stepped =>
      -- A call that polls would have come further.
      rw [here] at polls
      exact absurd polls (Poller.step?_steps stepped).polls_ne
    | leavePoll before after poll here present free =>
      rw [here] at polls
      have same : (⟨poll.most, poll.poller, false⟩ : Poll) = poll := by simpa using polls
      rw [← same] at present
      cases present

end WakingTraffic

end BatchFlow.Handoff
