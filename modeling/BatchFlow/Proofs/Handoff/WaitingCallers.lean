import BatchFlow.Proofs.Handoff.Wakeups

/-! Whoever polls leaves everybody provided for, and so nobody waits at a queue for what is there
already. -/

namespace BatchFlow.Handoff

/-- A caller with a ticket that cannot go on waits, and was not called. -/
theorem Poller.parked_of_stuck {most ticket : Nat} {queue : Queue} {poller : Poller}
    (stuck : poller.step? most queue = none) (held : poller.ticket? = some ticket) :
    poller = .parked ticket ∧ queue.notEmpty.isWoken ticket = false := by
  cases poller with
  | starting | finished => cases held
  | looking own =>
    -- Whoever looks finds something or not, and goes on in either case.
    simp only [step?] at stuck
    split at stuck
    · split at stuck <;> cases stuck
    · cases stuck
  | parked own =>
    cases held
    refine ⟨rfl, ?_⟩
    simpa [step?] using stuck
  | telling own batch => cases stuck

/-- Those who poll neither close nor suspend the queue. -/
theorem Poller.Steps.isRefusing_eq {most : Nat} {queue later : Queue} {poller next : Poller}
    (steps : poller.Steps most queue later next) : later.isRefusing = queue.isRefusing := by
  cases steps <;> rfl

/-- What one of those who poll does is nothing to the tickets of the others. -/
theorem Poller.Steps.spares_others {most : Nat} {queue later : Queue} {poller next : Poller}
    (steps : poller.Steps most queue later next) {ticket : Nat}
    (other : poller.ticket? ≠ some ticket) : queue.notEmpty.Spares later.notEmpty ticket := by
  -- A ticket is drawn, given up or done with, and that is never the ticket of another caller.
  cases steps with
  | drawn => exact Gate.spares_register ..
  | took | empty => exact .refl _ _
  | refused gone | told gone =>
    refine Gate.spares_withdraw _ ?_
    rintro rfl
    exact other rfl
  | woken gone =>
    refine Gate.spares_leave _ ?_
    rintro rfl
    exact other rfl

/-- Whoever takes a call looks once more, and whoever finds items takes one at least. Somebody who
does not need a call any longer passes it on. -/
theorem Poller.Steps.provides {most : Nat} {queue later : Queue} {poller next : Poller}
    (steps : poller.Steps most queue later next) (once : queue.notEmpty.row.Nodup)
    (waits : later.notEmpty.waiting ≠ []) (place : Nat) (roused : List Nat) :
    later.items = [] ∨
      later.items.length + poller.looks.toNat + queue.notEmpty.singles + roused.length ≤
        queue.items.length + next.looks.toNat + later.notEmpty.singles +
          (next.rouse place roused).length := by
  -- What is taken, looked for and passed on is balanced step by step.
  cases steps with
  | drawn =>
    -- A look is gained, and at most one of those who were roused is struck off.
    right
    have shorter : roused.length - 1 ≤ (roused.erase place).length := List.le_length_erase
    simp only [Queue.awaitItems, Gate.singles_register, looks, rouse, Bool.toNat_false,
      Bool.toNat_true]
    omega
  | took ticket filled =>
    -- A look is used up, and at least one item is taken for it.
    right
    have occupied := List.length_pos_iff.mpr filled
    simp only [List.length_drop, looks, rouse, Bool.toNat_false, Bool.toNat_true]
    omega
  | refused ticket bare | empty ticket bare => exact .inl bare
  | woken ticket called =>
    -- One call fewer at the gate is one more caller who was roused.
    right
    have fewer := Gate.singles_leave once ticket
    simp only [looks, rouse, Bool.toNat_false, List.length_cons]
    omega
  | told ticket batch =>
    -- A call that has reached it meanwhile is passed on to somebody who waits.
    right
    have passed := Gate.singles_withdraw once waits
    simp only [looks, rouse, Bool.toNat_false]
    omega

/-- A caller that gives up gives its ticket back, and does nothing else. -/
theorem Poller.exists_giveUp (poller : Poller) (queue : Queue) :
    ∃ notEmpty, poller.giveUp queue = { queue with notEmpty } := by
  cases poller <;> exact ⟨_, rfl⟩

/-- A caller that can leave is neither about to look for items nor about to tell anybody. -/
theorem Poller.MayLeave.idle {poller : Poller} (free : poller.MayLeave) :
    poller.looks = false ∧ poller.tells = false := by
  cases poller <;> first | exact ⟨rfl, rfl⟩ | cases free

/-- What becomes of the gate when somebody gives up who may: a ticket is withdrawn, if there is
one. -/
theorem Poller.MayLeave.gate {poller : Poller} (free : poller.MayLeave) (queue : Queue) :
    (poller.ticket? = none ∧ poller.giveUp queue = queue) ∨
    ∃ ticket, poller.ticket? = some ticket ∧
      poller.giveUp queue = { queue with notEmpty := queue.notEmpty.withdraw ticket } := by
  -- Only a caller that has not begun and one that waits may leave.
  cases poller with
  | starting => exact .inl ⟨rfl, rfl⟩
  | parked ticket => exact .inr ⟨ticket, rfl, rfl⟩
  | looking | telling | finished => cases free

namespace Traffic

variable {traffic later : Traffic} {before after : List Poll} {poll : Poll} {poller : Poller}

/-- Whoever polls draws a ticket, keeps it or gives it up. -/
theorem Seated.polled (seated : traffic.Seated) (here : traffic.polls = before ++ poll :: after)
    (present : poll.present = true)
    (there : later.polls = before ++ { poll with poller } :: after)
    (steps : poll.poller.Steps poll.most traffic.queue later.queue poller) : later.Seated := by
  have held : poll.ticket? = poll.poller.ticket? := by simp [Poll.ticket?, present]
  have holds : ({ poll with poller } : Poll).ticket? = poller.ticket? := by
    simp [Poll.ticket?, present]
  -- The caller draws a ticket, keeps the one that it has or gives it up.
  generalize own : poll.poller = start at steps held
  generalize result : later.queue = queue at steps
  cases steps with
  | drawn => exact seated.draw here there held holds (by rw [result]; rfl) (by rw [result]; rfl)
  | took ticket | empty ticket =>
    exact seated.keep here there (holds.trans held.symm) (by rw [result]) (by rw [result])
  | refused ticket | told ticket =>
    refine seated.drop here there held holds ?_ (by rw [result])
    rw [result]
    exact Gate.row_withdraw seated.once
  | woken ticket called =>
    refine seated.drop here there held holds ?_ (by rw [result])
    rw [result, Gate.row_leave seated.once called]

/-- Whoever gives up gives its ticket back, if it has one. -/
theorem Seated.left (seated : traffic.Seated) (here : traffic.polls = before ++ poll :: after)
    (present : poll.present = true) (free : poll.poller.MayLeave)
    (there : later.polls = before ++ { poll with present := false } :: after)
    (gives : later.queue = poll.poller.giveUp traffic.queue) : later.Seated := by
  have held : poll.ticket? = poll.poller.ticket? := by simp [Poll.ticket?, present]
  have holds : ({ poll with present := false } : Poll).ticket? = none := by simp [Poll.ticket?]
  -- Either the caller had no ticket, or its ticket leaves the row with it.
  rcases free.gate traffic.queue with ⟨none, same⟩ | ⟨ticket, own, same⟩
  · rw [same] at gives
    exact seated.keep here there (holds.trans (held.trans none).symm)
      (by rw [gives]) (by rw [gives])
  · rw [same] at gives
    refine seated.drop here there (held.trans own) holds ?_ (by rw [gives])
    rw [gives]
    exact Gate.row_withdraw seated.once

end Traffic

namespace WakingTraffic

variable {waking later : WakingTraffic} {before after : List Poll} {poll : Poll} {poller : Poller}
  {queue : Queue}

/-- Whoever was woken is about to look again. -/
theorem Wakeful.rouse (wakeful : waking.Wakeful)
    (here : waking.traffic.polls = before ++ poll :: after) (present : poll.present = true)
    (steps : poll.poller.Steps poll.most waking.traffic.queue queue poller) :
    (poller.rouse before.length waking.roused).Nodup ∧
      ∀ place ∈ poller.rouse before.length waking.roused, ∃ other,
        (before ++ { poll with poller } :: after)[place]? = some other ∧
          other.present = true ∧ other.poller = .starting := by
  -- The others are where they were.
  have others : ∀ place ∈ waking.roused, place ≠ before.length → ∃ other,
      (before ++ { poll with poller } :: after)[place]? = some other ∧
        other.present = true ∧ other.poller = .starting := by
    intro place listed apart
    obtain ⟨other, found, rest⟩ := wakeful.roused place listed
    refine ⟨other, ?_, rest⟩
    rw [here] at found
    grind
  -- Only somebody who is about to look was woken.
  have own : before.length ∈ waking.roused → poll.poller = .starting := by
    intro listed
    obtain ⟨other, found, _, starting⟩ := wakeful.roused _ listed
    rw [here] at found
    grind
  generalize start : poll.poller = from_ at steps own
  cases steps with
  | drawn =>
    -- Who looks now is struck off.
    refine ⟨wakeful.distinct.erase _, fun place listed => ?_⟩
    obtain ⟨apart, old⟩ := wakeful.distinct.mem_erase_iff.mp listed
    exact others place old apart
  | woken ticket called =>
    -- It waited until now, so it was not among those who were woken before.
    have fresh : before.length ∉ waking.roused := by
      intro listed
      cases own listed
    refine ⟨List.nodup_cons.mpr ⟨fresh, wakeful.distinct⟩, fun place listed => ?_⟩
    rcases List.mem_cons.mp listed with rfl | old
    · exact ⟨{ poll with poller := .starting }, by simp, present, rfl⟩
    · refine others place old ?_
      rintro rfl
      exact fresh old
  | took | refused | empty | told =>
    -- Of the others nobody was woken.
    refine ⟨wakeful.distinct, fun place listed => others place listed ?_⟩
    rintro rfl
    cases own listed

/-- Whoever waits for room still has good reason to, or will be called, or is called just now. -/
theorem Wakeful.room_polled (wakeful : waking.Wakeful)
    (here : waking.traffic.polls = before ++ poll :: after) (present : poll.present = true)
    (there : later.traffic.polls = before ++ { poll with poller } :: after)
    (pushes : later.traffic.pushes = waking.traffic.pushes)
    (orders : later.traffic.orders = waking.traffic.orders)
    (steps : poll.poller.Steps poll.most waking.traffic.queue later.traffic.queue poller) :
    later.traffic.Called ∨ later.traffic.Crowded := by
  -- Nobody who waits for room is disturbed by somebody who polls.
  have called := fun called : waking.traffic.Called => called.elsewhere pushes steps.spares
  -- Nobody but this caller has come any further.
  have kept : later.traffic.queue.isFull = waking.traffic.queue.isFull → poll.tells = false →
      later.traffic.Called ∨ later.traffic.Crowded := by
    intro full silent
    refine wakeful.room.imp called ?_
    rintro (⟨crowded, accepting⟩ | ⟨other, member, tells⟩ | due)
    · exact .inl ⟨full.trans crowded, steps.isRefusing_eq.trans accepting⟩
    · refine .inr (.inl ⟨other, ?_, tells⟩)
      rw [here, List.mem_append, List.mem_cons] at member
      rcases or_left_comm.mp member with rfl | others
      · rw [silent] at tells
        cases tells
      · rw [there]
        grind
    · exact .inr (.inr (orders ▸ due))
  have member : ({ poll with poller } : Poll) ∈ later.traffic.polls := by simp [there]
  obtain ⟨traffic, roused⟩ := later
  obtain ⟨result, _⟩ := traffic
  dsimp only at *
  generalize start : poll.poller = from_ at steps
  cases steps with
  | drawn | woken | refused | empty =>
    exact kept rfl (by simp [Poll.tells, Poller.tells, start])
  | took =>
    -- More than one place may be free now, and this caller is going to say so.
    exact .inr (.inr (.inl ⟨_, member, by simp [Poll.tells, Poller.tells, present]⟩))
  | told => exact .inl (wakeful.orderly.called pushes rfl)

/-- Somebody who polls goes on. -/
theorem Wakeful.polled (wakeful : waking.Wakeful) (moved : waking.traffic.Step later.traffic)
    (here : waking.traffic.polls = before ++ poll :: after) (present : poll.present = true)
    (there : later.traffic.polls = before ++ { poll with poller } :: after)
    (pushes : later.traffic.pushes = waking.traffic.pushes)
    (orders : later.traffic.orders = waking.traffic.orders)
    (rouses : later.roused = poller.rouse before.length waking.roused)
    (stepped : poll.poller.step? poll.most waking.traffic.queue =
      some (later.traffic.queue, poller)) : later.Wakeful := by
  have steps := Poller.step?_steps stepped
  have seated := wakeful.seated.polled here present there steps
  obtain ⟨distinct, roused⟩ := wakeful.rouse here present steps
  refine ⟨wakeful.orderly_step moved, seated, orders ▸ wakeful.announced, rouses ▸ distinct,
    -- The three obligations that depend on the step are the woken polls, the room and the items.
    rouses ▸ there ▸ roused, wakeful.room_polled here present there pushes orders steps, ?_⟩
  by_cases parked : ∃ ticket, poller = .parked ticket
  · -- Whoever begins to wait found nothing in a queue that accepts items.
    obtain ⟨ticket, rfl⟩ := parked
    obtain ⟨same, bare, accepting⟩ := Poller.bare_of_parked stepped
    exact .inr ⟨by simp [same, bare], .inl (same ▸ accepting)⟩
  · have kept := wakeful.seated.called_replace here there
      (fun ticket other => steps.spares_others (by simpa [Poll.ticket?, present] using other))
      (fun _ ticket same => absurd ⟨ticket, same⟩ parked)
    refine or_iff_not_imp_left.mpr fun forgotten => ?_
    have provided := wakeful.items.resolve_left (forgotten ∘ kept)
    refine ⟨?_, provided.open_.imp steps.isRefusing_eq.trans (orders ▸ id)⟩
    -- Each item that is still there has somebody who sees to it, or is told of it.
    rcases steps.provides wakeful.seated.once (seated.waiting_ne_nil forgotten) before.length
      waking.roused with bare | provides
    · simp [bare]
    · have enough := provided.enough
      simp only [toNat_eq_ite] at provides
      simp only [alert, here, there, pushes, rouses, List.countP_append, List.countP_cons,
        Poll.looks, present, Bool.true_and] at enough ⊢
      omega

/-- Somebody begins to poll. -/
theorem Wakeful.request (wakeful : waking.Wakeful) (most : Nat) :
    Wakeful { waking with traffic.polls := waking.traffic.polls ++ [⟨most, .starting, true⟩] } := by
  have tickets : Traffic.pollTickets
      { waking.traffic with polls := waking.traffic.polls ++ [⟨most, .starting, true⟩] } =
      waking.traffic.pollTickets := by
    simp [Traffic.pollTickets, Poll.ticket?, Poller.ticket?]
  -- Whoever has just come holds no ticket, is not woken, and waits for nothing.
  refine ⟨wakeful.orderly_step (.move (.request _ most)),
    wakeful.seated.elsewhere tickets (.refl _) (Nat.le_refl _), wakeful.announced,
    wakeful.distinct, fun place listed => ?_, ?_, ?_⟩
  · obtain ⟨other, found, rest⟩ := wakeful.roused place listed
    exact ⟨other, by grind, rest⟩
  · refine wakeful.room.imp (·.elsewhere rfl (.of_eq rfl rfl)) (.imp_right (.imp_left ?_))
    rintro ⟨other, member, tells⟩
    exact ⟨other, List.mem_append_left _ member, tells⟩
  · refine wakeful.items.imp (fun called other member => ?_) fun provided => ⟨?_, provided.open_⟩
    · -- Whoever has just come waits for nothing.
      rcases List.mem_append.mp member with old | own
      · exact called other old
      · cases List.mem_singleton.mp own
        exact fun _ ticket parked => by cases parked
    · simpa [alert, Poll.looks, Poller.looks] using provided.enough

/-- Somebody who was not woken gives up polling. -/
theorem Wakeful.left (wakeful : waking.Wakeful) (moved : waking.traffic.Step later.traffic)
    (here : waking.traffic.polls = before ++ poll :: after) (present : poll.present = true)
    (free : poll.poller.MayLeave) (calm : before.length ∉ waking.roused)
    (there : later.traffic.polls = before ++ { poll with present := false } :: after)
    (pushes : later.traffic.pushes = waking.traffic.pushes)
    (orders : later.traffic.orders = waking.traffic.orders)
    (rouses : later.roused = waking.roused)
    (gives : later.traffic.queue = poll.poller.giveUp waking.traffic.queue) : later.Wakeful := by
  obtain ⟨notEmpty, same⟩ := poll.poller.exists_giveUp waking.traffic.queue
  have seated := wakeful.seated.left here present free there gives
  -- Neither a look nor a word to anybody is lost with a caller that may leave.
  have idle := free.idle
  have gone : ¬ ({ poll with present := false } : Poll).present = true := by simp
  refine ⟨wakeful.orderly_step moved, seated, orders ▸ wakeful.announced,
    rouses ▸ wakeful.distinct, fun place listed => ?_, ?_, ?_⟩
  · -- Somebody else was woken, and stands where it stood.
    rw [rouses] at listed
    obtain ⟨other, found, rest⟩ := wakeful.roused place listed
    refine ⟨other, ?_, rest⟩
    have apart : place ≠ before.length := by
      rintro rfl
      exact calm listed
    rw [here] at found
    rw [there]
    grind
  · -- The room is not touched by a caller who only waited for items.
    refine wakeful.room.imp
      (·.elsewhere pushes (gives ▸ poll.poller.spares_giveUp waking.traffic.queue)) ?_
    rw [same] at gives
    rintro (crowded | ⟨other, member, tells⟩ | due)
    · exact .inl (by rw [gives]; exact crowded)
    · refine .inr (.inl ⟨other, ?_, tells⟩)
      rw [here, List.mem_append, List.mem_cons] at member
      rcases or_left_comm.mp member with rfl | others
      · simp [Poll.tells, idle.2] at tells
      · rw [there]
        grind
    · exact .inr (.inr (orders ▸ due))
  · -- A call that reached the caller and was not used is passed on with its ticket.
    have kept := wakeful.seated.called_replace here there (fun ticket other => ?_)
      (fun present => absurd present gone)
    · refine or_iff_not_imp_left.mpr fun forgotten => ?_
      -- Somebody who waits is not called, so each item was provided for, and somebody can be told.
      have provided := wakeful.items.resolve_left (forgotten ∘ kept)
      have waits := seated.waiting_ne_nil forgotten
      refine ⟨?_, provided.open_.imp (by rw [gives, same]; exact id) (orders ▸ id)⟩
      -- The number of calls has not fallen, since a call that was passed on still counts.
      have singles : waking.traffic.queue.notEmpty.singles ≤
        later.traffic.queue.notEmpty.singles := by
        rcases free.gate waking.traffic.queue with ⟨_, equal⟩ | ⟨ticket, _, equal⟩
        · exact Nat.le_of_eq (by rw [gives, equal])
        · rw [gives, equal] at waits ⊢
          exact Gate.singles_withdraw wakeful.seated.once waits
      -- Neither the items nor what anybody else is about to do has changed.
      have items : later.traffic.queue.items = waking.traffic.queue.items := by rw [gives, same]
      have enough := provided.enough
      simp only [alert, here, there, pushes, rouses, items, List.countP_append, List.countP_cons,
        Poll.looks, idle.1, Bool.and_false, Bool.false_eq_true, if_false] at enough ⊢
      omega
    · -- A caller without a ticket leaves the gate as it is, and one with a ticket leaves that only.
      rcases free.gate waking.traffic.queue with ⟨_, equal⟩ | ⟨gone, own, equal⟩
      · rw [gives, equal]
        exact .refl _ _
      · rw [gives, equal]
        refine Gate.spares_withdraw _ ?_
        rintro rfl
        exact other (by simp [Poll.ticket?, present, own])

/-- Whatever happens, nobody is left waiting for what is there already. -/
theorem Wakeful.step (wakeful : waking.Wakeful) (step : Step waking later) : later.Wakeful := by
  have moved := step.traffic
  cases step with
  | aside step polls => exact wakeful.others step polls
  | request most => exact wakeful.request most
  | poll before after here present stepped =>
    exact wakeful.polled moved here present rfl rfl rfl rfl stepped
  | leave before after here present free calm =>
    exact wakeful.left moved here present free calm rfl rfl rfl rfl rfl

/-- At every moment, whatever came before, everybody is provided for. -/
theorem Reachable.wakeful {capacity : Nat} (reached : Reachable capacity waking) :
    waking.Wakeful := by
  induction reached with
  | start => exact wakeful_ofCapacity capacity
  | next _ step ih => exact ih.step step

/-- When no call can go on, nobody has anything left to announce, to look for or to say, and no
call has reached anybody who would have to go on. -/
theorem Wakeful.alert_eq_zero (wakeful : waking.Wakeful) (still : waking.traffic.Still) :
    waking.alert = 0 := by
  -- Each summand counts somebody who could go on, and nobody can.
  obtain ⟨pushers, pollers, _⟩ := still
  -- Nobody is about to announce an item.
  have silent : waking.traffic.pushes.countP (·.announces) = 0 := by
    refine List.countP_eq_zero.mpr fun push member announces => ?_
    simp only [Push.announces, Bool.and_eq_true] at announces
    have stuck := pushers push member announces.1
    cases own : push.pusher <;> simp [own, Pusher.announces, Pusher.step?] at announces stuck
  -- Nobody is about to look.
  have calm : waking.traffic.polls.countP (·.looks) = 0 := by
    refine List.countP_eq_zero.mpr fun poll member looks => ?_
    simp only [Poll.looks, Bool.and_eq_true] at looks
    have stuck := pollers poll member looks.1
    cases own : poll.poller with
    | looking ticket =>
      rw [own] at stuck
      cases (Poller.parked_of_stuck stuck rfl).1
    | _ => simp [own, Poller.looks] at looks
  -- Nobody was woken who would have to look.
  have asleep : waking.roused = [] := by
    refine List.eq_nil_iff_forall_not_mem.mpr fun place listed => ?_
    obtain ⟨poll, found, present, starting⟩ := wakeful.roused place listed
    have stuck := pollers poll (List.mem_of_getElem? found) present
    simp [starting, Poller.step?] at stuck
  -- No call has reached anybody.
  have uncalled : waking.traffic.queue.notEmpty.singles = 0 := by
    refine List.countP_eq_zero.mpr fun wakeup listed _ => ?_
    -- The ticket is that of a caller, who could go on.
    have woken : waking.traffic.queue.notEmpty.isWoken wakeup.ticket = true :=
      Gate.isWoken_iff.mpr ⟨wakeup, listed, rfl⟩
    have known := wakeful.seated.row.mem_iff.mp (Gate.mem_row.mpr (.inr woken))
    obtain ⟨poll, member, held⟩ := List.mem_filterMap.mp known
    obtain ⟨present, own⟩ := Option.ite_none_right_eq_some.mp held
    have uncalled := (Poller.parked_of_stuck (pollers poll member present) own).2
    rw [uncalled] at woken
    cases woken
  simp [alert, silent, calm, asleep, uncalled]

/-- When no call can go on, whoever waits for room does so at a queue that is full, and whoever
waits for an item at one that is empty, and the queue is neither closed nor suspended. -/
theorem waits_only_at_full_or_empty {capacity : Nat} (reached : Reachable capacity waking)
    (still : waking.traffic.Still) :
    (∀ push ∈ waking.traffic.pushes, push.present = true →
      ∀ item ticket, push.pusher = .parked item ticket →
        waking.traffic.queue.items.length = max capacity 1 ∧
          waking.traffic.queue.closed = false ∧ waking.traffic.queue.suspended = false) ∧
    (∀ poll ∈ waking.traffic.polls, poll.present = true →
      ∀ ticket, poll.poller = .parked ticket →
        waking.traffic.queue.items = [] ∧
          waking.traffic.queue.closed = false ∧ waking.traffic.queue.suspended = false) := by
  have wakeful := reached.wakeful
  have bounded := (Traffic.queue_safe reached.traffic).bounded
  have idle := wakeful.alert_eq_zero still
  obtain ⟨pushers, pollers, orders⟩ := still
  have undone : ∀ chore, ¬ ∃ order ∈ waking.traffic.orders, chore ∈ order := by
    rintro chore ⟨order, member, todo⟩
    rw [orders order member] at todo
    cases todo
  constructor
  · -- Room: the reason to wait is that the queue is full, as nobody is about to say otherwise.
    intro push member present item ticket parked
    have stuck := pushers push member present
    have crowded := wakeful.room.resolve_left fun called => by
      simp [parked, Pusher.step?, called push member present item ticket parked] at stuck
    rcases crowded with ⟨full, accepting⟩ | ⟨poll, listed, tells⟩ | due
    · have crowd : waking.traffic.queue.capacity ≤ waking.traffic.queue.items.length :=
        of_decide_eq_true full
      rw [reached.traffic.capacity_eq] at crowd
      exact ⟨Nat.le_antisymm bounded crowd, Bool.or_eq_false_iff.mp accepting⟩
    · -- Somebody who is about to say that there is room could go on.
      simp only [Poll.tells, Bool.and_eq_true] at tells
      have stuck := pollers poll listed tells.1
      cases own : poll.poller <;> simp [own, Poller.tells, Poller.step?] at tells stuck
    · exact absurd due (undone _)
  · intro poll member present ticket parked
    -- Items: nobody is left to see to one, so that there is none.
    have uncalled := (Poller.parked_of_stuck (pollers poll member present)
      (by rw [parked]; rfl : poll.poller.ticket? = some ticket)).2
    have provided := wakeful.items.resolve_left fun called => by
      rw [called poll member present ticket parked] at uncalled
      cases uncalled
    have none : waking.traffic.queue.items.length = 0 :=
      Nat.le_zero.mp (idle ▸ provided.enough)
    have accepting := provided.open_.resolve_right (undone _)
    exact ⟨List.length_eq_zero_iff.mp none, Bool.or_eq_false_iff.mp accepting⟩

/-- A queue with room for one item, where one caller has queued its item and another one waits. -/
def crowded : WakingTraffic where
  traffic :=
    { queue :=
        { Queue.ofCapacity 1 with
          items := [⟨.null, 0⟩]
          notEmpty := ⟨true, [], []⟩
          notFull := ⟨false, [1], []⟩
          nextAck := 1
          nextTicket := 2 }
      pushes := [⟨.null, .awaiting 0, some 0, true⟩, ⟨.null, .parked .null 1, none, true⟩]
      polls := []
      orders := []
      accepted := [⟨.null, 0⟩]
      departed := [] }
  roused := []

/-- A queue whose only item was taken, while one caller has given up and another one waits. -/
def bare : WakingTraffic where
  traffic :=
    { queue :=
        { Queue.ofCapacity 1 with
          notEmpty := ⟨false, [4], []⟩
          nextAck := 1
          nextTicket := 5 }
      pushes := [⟨.null, .awaiting 0, some 0, true⟩]
      polls := [⟨4, .parked 0, false⟩, ⟨4, .finished [⟨.null, 0⟩], true⟩, ⟨4, .parked 4, true⟩]
      orders := []
      accepted := [⟨.null, 0⟩]
      departed := [.handed ⟨.null, 0⟩] }
  roused := []

/-- A caller queues its item and waits for the answer, and another one finds no room. -/
theorem reachable_crowded : Reachable 1 crowded := by
  have opened : Reachable 1 _ := .start
  have arrived := opened.next (.aside (.move (.arrive _ .null)) rfl)
  have drawn := arrived.next (.aside (.move (.push _ [] [] _ _ _ rfl rfl rfl)) rfl)
  have queued := drawn.next (.aside (.move (.push _ [] [] _ _ _ rfl rfl rfl)) rfl)
  have announced := queued.next (.aside (.move (.push _ [] [] _ _ _ rfl rfl rfl)) rfl)
  -- There is no room for a second item.
  have second := announced.next (.aside (.move (.arrive _ .null)) rfl)
  have trying := second.next (.aside (.move (.push _ [_] [] _ _ _ rfl rfl rfl)) rfl)
  have waiting := trying.next (.aside (.move (.push _ [_] [] _ _ _ rfl rfl rfl)) rfl)
  exact waiting

/-- One caller takes the only item after another one has passed its call on, and a third waits. -/
theorem reachable_bare : Reachable 1 bare := by
  have opened : Reachable 1 _ := .start
  -- Two callers wait for an item.
  have first := opened.next (.request 4)
  have looking := first.next (.poll [] [] rfl rfl rfl)
  have parked := looking.next (.poll [] [] rfl rfl rfl)
  have second := parked.next (.request 4)
  have looks := second.next (.poll [_] [] rfl rfl rfl)
  have waits := looks.next (.poll [_] [] rfl rfl rfl)
  -- The first of them is told of one, and leaves all the same.
  have arrived := waits.next (.aside (.move (.arrive _ .null)) rfl)
  have drawn := arrived.next (.aside (.move (.push _ [] [] _ _ _ rfl rfl rfl)) rfl)
  have queued := drawn.next (.aside (.move (.push _ [] [] _ _ _ rfl rfl rfl)) rfl)
  have announced := queued.next (.aside (.move (.push _ [] [] _ _ _ rfl rfl rfl)) rfl)
  have left := announced.next (.leave [] [_] rfl rfl trivial (by decide))
  -- The call is passed on to the second, which takes the item.
  have woken := left.next (.poll [_] [] rfl rfl rfl)
  have again := woken.next (.poll [_] [] rfl rfl rfl)
  have took := again.next (.poll [_] [] rfl rfl rfl)
  have told := took.next (.poll [_] [] rfl rfl rfl)
  -- A third one finds nothing.
  have third := told.next (.request 4)
  have looks := third.next (.poll [_, _] [] rfl rfl rfl)
  have waiting := looks.next (.poll [_, _] [] rfl rfl rfl)
  exact waiting

/-- One caller waits at a queue that is full, and one at a queue that is empty after a call was
passed on. -/
theorem waits_only_at_full_or_empty_still :
    (Reachable 1 crowded ∧ crowded.traffic.Still ∧ crowded.traffic.queue.items.length = 1) ∧
      Reachable 1 bare ∧ bare.traffic.Still ∧ bare.traffic.queue.items = [] := by
  have crowd : crowded.traffic.Still := by
    simp [Traffic.Still, crowded, Pusher.step?, Queue.answer?, Gate.isWoken, Queue.ofCapacity]
  have empty : bare.traffic.Still := by
    simp [Traffic.Still, bare, Pusher.step?, Poller.step?, Queue.answer?, Gate.isWoken,
      Queue.ofCapacity]
  -- Each part of the theorem is applied to one of the two queues.
  have full := (waits_only_at_full_or_empty reachable_crowded crowd).1
    ⟨.null, .parked .null 1, none, true⟩ (by simp [crowded]) rfl .null 1 rfl
  have vacant := (waits_only_at_full_or_empty reachable_bare empty).2 ⟨4, .parked 4, true⟩
    (by simp [bare]) rfl 4 rfl
  exact ⟨⟨reachable_crowded, crowd, full.1⟩, reachable_bare, empty, vacant.1⟩

end WakingTraffic

end BatchFlow.Handoff
