import BatchFlow.Proofs.Handoff.AcceptedItems

/-! Whoever waits for room at a queue is known at its gate, and not forgotten. -/

namespace BatchFlow.Handoff

namespace Gate

variable {gate middle later : Gate} {ticket gone : Nat}

/-- The ticket was drawn, and its holder has not gone on yet. -/
def Knows (gate : Gate) (ticket : Nat) : Prop :=
  ticket ∈ gate.waiting ∨ gate.isWoken ticket = true

/-- Nothing is forgotten of a ticket. -/
structure Spares (gate later : Gate) (ticket : Nat) : Prop where
  knows : gate.Knows ticket → later.Knows ticket
  woken : gate.isWoken ticket = true → later.isWoken ticket = true

/-- A ticket was called if there is a call for it. -/
theorem isWoken_iff :
    gate.isWoken ticket = true ↔ ∃ wakeup ∈ gate.woken, wakeup.ticket = ticket := by
  simp [isWoken]

/-- A gate that stays as it is forgets nothing. -/
theorem Spares.refl (gate : Gate) (ticket : Nat) : gate.Spares gate ticket := ⟨id, id⟩

/-- What is not forgotten in two steps is not forgotten. -/
theorem Spares.trans (first : gate.Spares middle ticket) (second : middle.Spares later ticket) :
    gate.Spares later ticket :=
  ⟨second.knows ∘ first.knows, second.woken ∘ first.woken⟩

/-- That somebody draws a ticket makes the gate forget nothing of the others. -/
theorem spares_register (gate : Gate) (drawn ticket : Nat) :
    gate.Spares (gate.register drawn) ticket := by
  -- Whether or not a permit was kept, the new ticket comes after the others.
  unfold register
  split <;> constructor <;> simp only [Knows, isWoken_iff] <;> grind

/-- A ticket that was just drawn is known. -/
theorem register_knows (gate : Gate) (ticket : Nat) : (gate.register ticket).Knows ticket := by
  unfold register
  split <;> simp [Knows, isWoken]

/-- A single call leaves the other tickets known, and those that were called before stay called. -/
theorem spares_wakeOne (gate : Gate) (ticket : Nat) : gate.Spares gate.wakeOne ticket := by
  unfold wakeOne
  split
  · exact ⟨id, id⟩
  · -- The oldest of those who wait is called.
    constructor <;> simp only [Knows, isWoken_iff, List.mem_append, List.mem_singleton,
      or_and_right, exists_or, exists_eq_left] <;> grind

/-- A call to everybody reaches everybody. -/
theorem isWoken_wakeAll : gate.wakeAll.isWoken ticket = true ↔ gate.Knows ticket := by
  simp [isWoken_iff, Knows, wakeAll, or_and_right, exists_or, or_comm]

/-- Whoever waited is called, and whoever was called before still is. -/
theorem spares_wakeAll (gate : Gate) (ticket : Nat) : gate.Spares gate.wakeAll ticket where
  knows knows := .inr (isWoken_wakeAll.mpr knows)
  woken woken := isWoken_wakeAll.mpr (.inr woken)

/-- Whoever goes on makes the gate forget its own ticket and no other. -/
theorem spares_leave (gate : Gate) (apart : ticket ≠ gone) :
    gate.Spares (gate.leave gone) ticket := by
  -- Only calls to the ticket that is given up are dropped.
  constructor <;> simp only [Knows, isWoken_iff, leave] <;> grind

/-- So does whoever stops waiting, even where its call is passed on. -/
theorem spares_withdraw (gate : Gate) (apart : ticket ≠ gone) :
    gate.Spares (gate.withdraw gone) ticket := by
  -- The single call that is passed on, if there is one, only adds to what is known.
  have left : gate.Spares
      { gate.leave gone with waiting := gate.waiting.filter (· != gone) } ticket := by
    constructor <;> simp only [Knows, isWoken_iff, leave] <;> grind
  unfold withdraw
  dsimp only
  split
  · exact left.trans (spares_wakeOne ..)
  · exact left

end Gate

/-- No ticket for room is forgotten, and none is drawn twice. -/
structure Queue.Spares (queue later : Queue) : Prop where
  count : queue.nextTicket ≤ later.nextTicket
  gate : ∀ ticket, queue.notFull.Spares later.notFull ticket

/-- Whatever leaves the tickets and the gate for room alone forgets nobody. -/
theorem Queue.Spares.of_eq {queue later : Queue} (count : later.nextTicket = queue.nextTicket)
    (gate : later.notFull = queue.notFull) : queue.Spares later :=
  ⟨Nat.le_of_eq count.symm, fun ticket => gate ▸ Gate.Spares.refl _ ticket⟩

/-- To answer for an item forgets nobody who waits for room. -/
theorem Queue.spares_settle (queue : Queue) (answer : Answer) (ack : Nat) :
    queue.Spares (queue.settle answer ack) := by
  unfold settle
  split <;> exact .of_eq rfl rfl

/-- Those who poll do nothing to those who push but call them. -/
theorem Poller.Steps.spares {most : Nat} {queue later : Queue} {poller next : Poller}
    (steps : poller.Steps most queue later next) : queue.Spares later := by
  -- Whoever draws a ticket advances the count, and whoever has taken items calls everybody.
  cases steps with
  | drawn => exact ⟨Nat.le_succ _, Gate.Spares.refl _⟩
  | told => exact ⟨Nat.le_refl _, Gate.spares_wakeAll _⟩
  | _ => exact .of_eq rfl rfl

/-- Whoever stops polling leaves those who push alone. -/
theorem Poller.spares_giveUp (poller : Poller) (queue : Queue) :
    queue.Spares (poller.giveUp queue) := by
  cases poller <;> exact .of_eq rfl rfl

/-- What is done to close, suspend or resume the queue forgets nobody who waits for room. -/
theorem Chore.spares_perform (chore : Chore) (queue : Queue) :
    queue.Spares (chore.perform queue).1 := by
  -- Only the call to all who push concerns their gate.
  cases chore with
  | refuse ack => exact queue.spares_settle ..
  | wakePushers => exact ⟨Nat.le_refl _, Gate.spares_wakeAll _⟩
  | _ => exact .of_eq rfl rfl

/-- The ticket that a pusher holds. -/
def Pusher.ticket? : Pusher → Option Nat
  | trying _ ticket | parked _ ticket | announcing ticket _ => some ticket
  | arriving _ | awaiting _ | finished _ => none

/-- A caller who held a ticket, or none, has gone on with it, gives it up or draws a new one. -/
structure Queue.Exchanges (queue later : Queue) (held next : Option Nat) : Prop where
  count : queue.nextTicket ≤ later.nextTicket
  spares : ∀ ticket, held ≠ some ticket → queue.notFull.Spares later.notFull ticket
  holds : ∀ ticket, next = some ticket →
    (held = some ticket ∧ queue.notFull.Spares later.notFull ticket) ∨
    (ticket = queue.nextTicket ∧ ticket < later.nextTicket ∧ later.notFull.Knows ticket)

/-- Whoever keeps its ticket exchanges nothing, where nobody is forgotten. -/
theorem Queue.Exchanges.keep {queue later : Queue} (spares : queue.Spares later)
    (held : Option Nat) : queue.Exchanges later held held :=
  ⟨spares.count, fun ticket _ => spares.gate ticket,
    fun ticket own => .inl ⟨own, spares.gate ticket⟩⟩

/-- With each step a pusher keeps its ticket, draws a new one or gives it up. -/
theorem Pusher.Steps.exchanges {queue later : Queue} {pusher next : Pusher}
    (steps : pusher.Steps queue later next) :
    queue.Exchanges later pusher.ticket? next.ticket? := by
  cases steps with
  | drawn item =>
    -- The new ticket is known at once, by a place in the row or by the permit that was kept.
    refine ⟨Nat.le_succ _, fun ticket _ => Gate.spares_register .., fun ticket own => .inr ?_⟩
    cases own
    exact ⟨rfl, Nat.lt_succ_self _, Gate.register_knows ..⟩
  | queued item ticket =>
    have spares : queue.Spares (queue.joinedBy item) := .of_eq rfl rfl
    exact .keep spares (some ticket)
  | full | answered => exact .keep (.of_eq rfl rfl) _
  | refused item gone | announced gone =>
    -- The ticket goes back to the gate.
    refine ⟨Nat.le_refl _, fun ticket apart => Gate.spares_withdraw _ ?_, fun _ own => by cases own⟩
    rintro rfl
    exact apart rfl
  | woken item gone =>
    -- Whoever was woken draws a new ticket before it looks again.
    refine ⟨Nat.le_refl _, fun ticket apart => Gate.spares_leave _ ?_, fun _ own => by cases own⟩
    rintro rfl
    exact apart rfl

/-- A pusher that leaves gives its ticket up. -/
theorem Pusher.exchanges_giveUp (pusher : Pusher) (queue : Queue) :
    queue.Exchanges (pusher.giveUp queue) pusher.ticket? none := by
  refine ⟨?_, fun ticket apart => ?_, fun _ own => by cases own⟩
  · cases pusher <;> exact Nat.le_refl _
  · -- Three points of a push hold a ticket, and each of them gives it back to the gate.
    cases pusher with
    | trying item gone | parked item gone | announcing gone ack =>
      refine Gate.spares_withdraw _ ?_
      rintro rfl
      exact apart rfl
    | _ => exact .refl _ _

/-- While the queue is suspended, no caller begins to wait for room. -/
theorem Pusher.ne_parked {queue later : Queue} {pusher next : Pusher}
    (stepped : pusher.step? queue = some (later, next)) (suspended : queue.suspended = true)
    (item : Item) (ticket : Nat) : next ≠ .parked item ticket := by
  rintro rfl
  -- Nobody but a caller that looks for room can begin to wait, and it is refused instead.
  cases Pusher.step?_steps stepped with
  | full => simp [step?, Queue.tryPush, Queue.isRefusing, suspended] at stepped

/-- The ticket of a caller who still waits. -/
def Push.ticket? (push : Push) : Option Nat :=
  if push.present then push.pusher.ticket? else none

/-- A caller who waits for room holds the ticket under which it waits. -/
theorem Push.ticket?_of_parked {push : Push} {item : Item} {ticket : Nat}
    (present : push.present = true) (parked : push.pusher = .parked item ticket) :
    push.ticket? = some ticket := by
  simp [ticket?, present, parked, Pusher.ticket?]

/-- The caller has not been forgotten if it waits for room: it was called. -/
def Push.Called (queue : Queue) (push : Push) : Prop :=
  push.present = true → ∀ item ticket, push.pusher = .parked item ticket →
    queue.notFull.isWoken ticket = true

namespace Traffic

variable {traffic later : Traffic} {before after : List Push} {push next : Push}

/-- The tickets of those who push. -/
def tickets (traffic : Traffic) : List Nat := traffic.pushes.filterMap (·.ticket?)

/-- Whoever pushes has a ticket of its own, and the gate knows it. -/
structure Orderly (traffic : Traffic) : Prop where
  distinct : traffic.tickets.Nodup
  drawn : ∀ ticket ∈ traffic.tickets, ticket < traffic.queue.nextTicket
  known : ∀ ticket ∈ traffic.tickets, traffic.queue.notFull.Knows ticket

/-- Whoever waits for room was called. -/
def Called (traffic : Traffic) : Prop := ∀ push ∈ traffic.pushes, push.Called traffic.queue

/-- At a new queue nobody holds a ticket. -/
theorem orderly_ofCapacity (capacity : Nat) : (ofCapacity capacity).Orderly where
  distinct := List.nodup_nil
  drawn ticket held := by cases held
  known ticket held := by cases held

/-- The tickets are those of one caller and of all the others. -/
theorem tickets_perm (here : traffic.pushes = before ++ push :: after) :
    traffic.tickets.Perm (push.ticket?.toList ++ (before ++ after).filterMap (·.ticket?)) := by
  -- The caller in the middle comes to the front.
  rw [tickets, here, List.filterMap_append, List.filterMap_append]
  cases held : push.ticket? <;> simp [held]

/-- A ticket that is held is held by the caller in the middle or by one of the others. -/
theorem mem_tickets_iff (here : traffic.pushes = before ++ push :: after) {ticket : Nat} :
    ticket ∈ traffic.tickets ↔
      ticket ∈ (before ++ after).filterMap (·.ticket?) ∨ push.ticket? = some ticket := by
  rw [(tickets_perm here).mem_iff, List.mem_append, Option.mem_toList, or_comm]

/-- No ticket is held twice if none of the others is, and none of theirs is the caller's. -/
theorem nodup_tickets_iff (here : traffic.pushes = before ++ push :: after) :
    traffic.tickets.Nodup ↔ ((before ++ after).filterMap (·.ticket?)).Nodup ∧
      ∀ ticket ∈ (before ++ after).filterMap (·.ticket?), push.ticket? ≠ some ticket := by
  rw [(tickets_perm here).nodup_iff]
  cases push.ticket? <;> grind

/-- Somebody who holds no ticket for room leaves the others with theirs. -/
theorem Orderly.spare (orderly : traffic.Orderly) (same : later.tickets = traffic.tickets)
    (spares : traffic.queue.Spares later.queue) : later.Orderly := by
  refine ⟨same ▸ orderly.distinct, fun ticket held => ?_, fun ticket held => ?_⟩
  · exact Nat.lt_of_lt_of_le (orderly.drawn ticket (same ▸ held)) spares.count
  · exact (spares.gate ticket).knows (orderly.known ticket (same ▸ held))

/-- Whoever waits was called before, or came since and was called, and no call is forgotten. -/
theorem Called.spare (called : traffic.Called)
    (joined : ∀ push ∈ later.pushes, push ∈ traffic.pushes ∨ push.Called later.queue)
    (spares : traffic.queue.Spares later.queue) : later.Called := by
  -- Somebody who was there before is still known, and a call that reached it still counts.
  intro push member
  refine (joined push member).elim (fun member present item ticket parked => ?_) id
  exact (spares.gate ticket).woken (called push member present item ticket parked)

/-- Whatever somebody does who does not push, those who push keep their tickets in order. -/
theorem Orderly.elsewhere (orderly : traffic.Orderly) (same : later.pushes = traffic.pushes)
    (spares : traffic.queue.Spares later.queue) : later.Orderly :=
  orderly.spare (by rw [tickets, same, tickets]) spares

/-- What somebody does who does not push takes no call back. -/
theorem Called.elsewhere (called : traffic.Called) (same : later.pushes = traffic.pushes)
    (spares : traffic.queue.Spares later.queue) : later.Called :=
  called.spare (fun _ member => .inl (same ▸ member)) spares

/-- A call to everybody reaches whoever waits for room. -/
theorem Orderly.called (orderly : traffic.Orderly) (same : later.pushes = traffic.pushes)
    (all : later.queue.notFull = traffic.queue.notFull.wakeAll) : later.Called := by
  -- Whoever waits for room is known at the gate.
  intro push member present item ticket parked
  rw [all, Gate.isWoken_wakeAll]
  exact orderly.known ticket
    (List.mem_filterMap.mpr ⟨push, same ▸ member, Push.ticket?_of_parked present parked⟩)

/-- When one of those who push exchanges its ticket, all tickets stay in order, and the others stay
called. -/
theorem Orderly.replace (orderly : traffic.Orderly)
    (here : traffic.pushes = before ++ push :: after)
    (there : later.pushes = before ++ next :: after)
    (exchanges : traffic.queue.Exchanges later.queue push.ticket? next.ticket?) :
    later.Orderly ∧ (next.Called later.queue → traffic.Called → later.Called) := by
  obtain ⟨distinct, apart⟩ := (nodup_tickets_iff here).mp orderly.distinct
  -- The others hold the same tickets as before, none of which this caller held.
  have kept : ∀ ticket ∈ (before ++ after).filterMap (·.ticket?),
      ticket ∈ traffic.tickets ∧ traffic.queue.notFull.Spares later.queue.notFull ticket :=
    fun ticket held =>
      ⟨(mem_tickets_iff here).mpr (.inl held), exchanges.spares ticket (apart ticket held)⟩
  have own : ∀ {ticket}, push.ticket? = some ticket → ticket ∈ traffic.tickets :=
    fun same => (mem_tickets_iff here).mpr (.inr same)
  have drawn : ∀ ticket ∈ traffic.tickets, ticket < later.queue.nextTicket :=
    fun ticket held => Nat.lt_of_lt_of_le (orderly.drawn ticket held) exchanges.count
  refine ⟨⟨?_, fun ticket held => ?_, fun ticket held => ?_⟩, fun fine called other member => ?_⟩
  · -- A ticket that was just drawn is larger than all the others.
    refine (nodup_tickets_iff there).mpr ⟨distinct, fun ticket held same => ?_⟩
    rcases exchanges.holds ticket same with ⟨old, _⟩ | ⟨rfl, _⟩
    · exact apart ticket held old
    · exact Nat.lt_irrefl _ (orderly.drawn _ (kept _ held).1)
  · rcases (mem_tickets_iff there).mp held with held | same
    · exact drawn ticket (kept ticket held).1
    · rcases exchanges.holds ticket same with ⟨old, _⟩ | ⟨_, fresh, _⟩
      · exact drawn ticket (own old)
      · exact fresh
  · -- The gate has not forgotten anybody, and knows the new ticket.
    rcases (mem_tickets_iff there).mp held with held | same
    · exact (kept ticket held).2.knows (orderly.known ticket (kept ticket held).1)
    · rcases exchanges.holds ticket same with ⟨old, spares⟩ | ⟨_, _, knows⟩
      · exact spares.knows (orderly.known ticket (own old))
      · exact knows
  · -- The others that wait for room have not moved.
    rw [there, List.mem_append, List.mem_cons] at member
    rcases or_left_comm.mp member with rfl | others
    · exact fine
    · intro present item ticket parked
      have listed : other ∈ before ++ after := List.mem_append.mpr others
      have held := List.mem_filterMap.mpr ⟨other, listed, Push.ticket?_of_parked present parked⟩
      have before : other ∈ traffic.pushes := by rw [here]; grind
      exact (kept ticket held).2.woken (called other before present item ticket parked)

/-- Whoever moves, nobody who waits for room is forgotten. While the queue is suspended, nobody has
to wait who was not called. -/
theorem Orderly.move (orderly : traffic.Orderly) (moved : traffic.Move later) :
    later.Orderly ∧ (traffic.queue.suspended = true → traffic.Called → later.Called) := by
  -- Whoever does not push disturbs nobody, suspended or not.
  have elsewhere : ∀ later : Traffic, later.pushes = traffic.pushes →
      traffic.queue.Spares later.queue →
      later.Orderly ∧ (traffic.queue.suspended = true → traffic.Called → later.Called) :=
    fun later same spares =>
      ⟨orderly.elsewhere same spares, fun _ called => called.elsewhere same spares⟩
  cases moved with
  | arrive item =>
    -- Whoever has just come holds no ticket, and waits for nothing.
    have spares : traffic.queue.Spares traffic.queue := .of_eq rfl rfl
    refine ⟨orderly.spare ?_ spares, fun _ called => called.spare (fun push member => ?_) spares⟩
    · simp [tickets, Push.ticket?, Pusher.ticket?]
    · refine (List.mem_append.mp member).imp_right fun own => ?_
      cases List.mem_singleton.mp own
      exact fun _ item ticket parked => by cases parked
  | push before after push queue pusher here present stepped =>
    have exchanges : traffic.queue.Exchanges queue push.ticket? (push.advance pusher).ticket? := by
      simpa [Push.ticket?, Push.advance, present] using (Pusher.step?_steps stepped).exchanges
    -- Only a caller that begins to wait could be one that was not called.
    exact (orderly.replace here rfl exchanges).imp_right fun kept suspended =>
      kept fun _ item ticket parked =>
        absurd parked (Pusher.ne_parked stepped suspended item ticket)
  | leavePush before after push here present free =>
    -- Whoever leaves gives its ticket up.
    have exchanges := push.pusher.exchanges_giveUp traffic.queue
    have held : push.ticket? = push.pusher.ticket? := by simp [Push.ticket?, present]
    refine (orderly.replace here rfl (held ▸ exchanges)).imp_right fun kept _ => kept ?_
    exact fun present => by cases present
  | request most => exact elsewhere _ rfl (.of_eq rfl rfl)
  | poll before after poll queue poller here present stepped =>
    exact elsewhere _ rfl (Poller.step?_steps stepped).spares
  | leavePoll before after poll here present free =>
    exact elsewhere _ rfl (poll.poller.spares_giveUp _)
  | order chores known => exact elsewhere _ rfl (.of_eq rfl rfl)
  | chore before after chore rest here => exact elsewhere _ rfl (chore.spares_perform _)

end Traffic

end BatchFlow.Handoff
