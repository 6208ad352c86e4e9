import BatchFlow.Proofs.Handoff.AcceptedItems

/-! Soundness of the traffic at a hand-off queue: what every step of every call keeps. -/

namespace BatchFlow.Handoff

/-- What holds of every element still does once one of them is replaced by one of which it holds. -/
theorem forall_mem_replace {α : Type} {fact : α → Prop} {before after : List α} {old next : α}
    (all : ∀ element ∈ before ++ old :: after, fact element) (fine : fact next) :
    ∀ element ∈ before ++ next :: after, fact element := by
  intro element member
  -- An element before the place, at it, or behind it.
  rcases List.mem_append.mp member with member | member
  · exact all element (List.mem_append_left _ member)
  · rcases List.mem_cons.mp member with rfl | member
    · exact fine
    · exact all element (List.mem_append_right _ (List.mem_cons_of_mem _ member))

/-- How far a pusher can have come with an item and its acknowledgement. -/
def Pusher.Stands (queue : Queue) (item : Item) (entry : Option Nat) : Pusher → Prop
  | arriving own | trying own _ | parked own _ => own = item ∧ entry = none
  | announcing _ ack | awaiting ack => entry = some ack
  | finished answer =>
    (entry = none ∧ answer = .error .closed) ∨
      ∃ ack, entry = some ack ∧ queue.answer? ack = some answer

/-- A call that pushes has queued nothing but its item, and says nothing but its answer. -/
structure Push.Sound (queue : Queue) (accepted : List Pending) (push : Push) : Prop where
  queued : ∀ {ack}, push.entry = some ack → ⟨push.item, ack⟩ ∈ accepted
  stands : push.pusher.Stands queue push.item push.entry

/-- A call that polls has taken no more than it may, in the order of acceptance. -/
structure Poll.Sound (accepted : List Pending) (poll : Poll) : Prop where
  bounded : poll.poller.batch.length ≤ max poll.most 1
  ordered : poll.poller.batch.Sublist accepted

/-- A pusher stands where it stood while more is answered. -/
theorem Pusher.Stands.mono {queue later : Queue} {item : Item} {entry : Option Nat}
    {pusher : Pusher} (stands : pusher.Stands queue item entry) (grows : later.Extends queue) :
    pusher.Stands later item entry := by
  cases pusher with
  | finished answer =>
    -- Only a call that is over depends on the queue, by its answer.
    exact stands.imp_right fun ⟨ack, own, known⟩ => ⟨ack, own, grows known⟩
  | _ => exact stands

/-- A push that was sound is so while more is answered and accepted. -/
theorem Push.Sound.mono {queue later : Queue} {accepted more : List Pending} {push : Push}
    (sound : push.Sound queue accepted) (grows : later.Extends queue)
    (sublist : accepted.Sublist more) : push.Sound later more where
  queued entry := sublist.subset (sound.queued entry)
  stands := sound.stands.mono grows

namespace Traffic

/-- What holds at every moment of the queue and of all calls on it. -/
structure Sound (traffic : Traffic) : Prop where
  custody : Custody traffic.queue traffic.accepted traffic.departed
  /-- What was taken away was refused, or is about to be. -/
  refused : ∀ {pending}, .withdrawn pending ∈ traffic.departed →
    (traffic.queue.answer? pending.ack).isSome = true ∨ pending.ack ∈ traffic.refusals
  /-- Nothing is about to be refused but what was taken away. -/
  refusing : ∀ {ack}, ack ∈ traffic.refusals →
    ∃ pending, .withdrawn pending ∈ traffic.departed ∧ pending.ack = ack
  pushes : ∀ push ∈ traffic.pushes, push.Sound traffic.queue traffic.accepted
  /-- Every acknowledgement belongs to one call. -/
  entries : (traffic.pushes.filterMap (·.entry)).Perm (List.range traffic.queue.nextAck)
  polls : ∀ poll ∈ traffic.polls, poll.Sound traffic.accepted
  /-- What was handed out is with the calls that polled. -/
  batches : traffic.handed.Perm (traffic.polls.flatMap (·.poller.batch))

variable {traffic later : Traffic}

/-- With a new queue, which nobody has called yet, everything is in order. -/
theorem sound_ofCapacity (capacity : Nat) : (ofCapacity capacity).Sound where
  custody := .ofCapacity capacity
  refused member := by cases member
  refusing member := by cases member
  pushes push member := by cases member
  entries := .refl _
  polls poll member := by cases member
  batches := .refl _

namespace Sound

/-- Nothing depends on the gates, nor on who may push. -/
theorem of_stock (sound : traffic.Sound) {queue : Queue}
    (same : queue.stock = traffic.queue.stock) : Sound { traffic with queue } where
  custody := sound.custody.of_stock same
  -- The answers are part of the stock.
  refused member := by
    show (queue.answer? _).isSome = true ∨ _
    rw [Queue.answer?_of_stock same]
    exact sound.refused member
  refusing := sound.refusing
  pushes push member := by
    refine (sound.pushes push member).mono ?_ (List.Sublist.refl _)
    intro ack answer known
    rw [Queue.answer?_of_stock same]
    exact known
  entries := by
    -- So is the number of the next acknowledgement.
    simp only [Queue.stock, Prod.mk.injEq] at same
    show List.Perm _ (List.range queue.nextAck)
    rw [same.2.2.1]
    exact sound.entries
  polls := sound.polls
  batches := sound.batches

/-- A call that pushes has come further, without queueing anything. -/
theorem replacePush (sound : traffic.Sound) {before after : List Push} {push next : Push}
    (here : traffic.pushes = before ++ push :: after) (entry : next.entry = push.entry)
    (fine : next.Sound traffic.queue traffic.accepted) :
    Sound { traffic with pushes := before ++ next :: after } where
  custody := sound.custody
  refused := sound.refused
  refusing := sound.refusing
  pushes := by
    -- The other calls stand as they stood.
    have others := sound.pushes
    rw [here] at others
    exact forall_mem_replace others fine
  entries := by
    -- The call is entered under the number that it had, if it had one.
    have entries := sound.entries
    rw [here] at entries
    simpa only [List.filterMap_append, List.filterMap_cons, entry] using entries
  polls := sound.polls
  batches := sound.batches

/-- A call that polls has come further, without taking anything. -/
theorem replacePoll (sound : traffic.Sound) {before after : List Poll} {poll next : Poll}
    (here : traffic.polls = before ++ poll :: after) (most : next.most = poll.most)
    (batch : next.poller.batch = poll.poller.batch) :
    Sound { traffic with polls := before ++ next :: after } where
  custody := sound.custody
  refused := sound.refused
  refusing := sound.refusing
  pushes := sound.pushes
  entries := sound.entries
  polls := by
    have others := sound.polls
    rw [here] at others
    obtain ⟨bounded, ordered⟩ := others poll (by simp)
    -- The call has the same items in hand as before.
    have fine : next.Sound traffic.accepted := ⟨by rwa [batch, most], by rwa [batch]⟩
    exact forall_mem_replace others fine
  batches := by
    have batches := sound.batches
    rw [here] at batches
    show traffic.handed.Perm _
    simpa only [List.flatMap_append, List.flatMap_cons, batch] using batches

/-- A call queues its item. -/
theorem queueItem (sound : traffic.Sound) {before after : List Push} {push : Push}
    (here : traffic.pushes = before ++ push :: after) (none : push.entry = none)
    (room : traffic.queue.items.length < traffic.queue.capacity) (ticket : Nat) :
    Sound
      { traffic with
        queue := traffic.queue.joinedBy push.item
        pushes := before ++
          { push with
            pusher := .announcing ticket traffic.queue.nextAck
            entry := some traffic.queue.nextAck } :: after
        accepted := traffic.accepted ++ [⟨push.item, traffic.queue.nextAck⟩] } where
  custody := sound.custody.accept push.item room
  refused := sound.refused
  refusing := sound.refusing
  pushes := by
    have others := sound.pushes
    rw [here] at others
    -- More is accepted now, which the other calls do not mind.
    refine forall_mem_replace (fun other member =>
      (others other member).mono (fun known => known) (List.sublist_append_left _ _)) ?_
    refine ⟨fun entry => ?_, rfl⟩
    cases entry
    exact List.mem_append_right _ (List.mem_singleton.mpr rfl)
  entries := by
    -- The call had no number before, and now has the next one.
    have entries := sound.entries
    rw [here] at entries
    simp only [List.filterMap_append, List.filterMap_cons, none] at entries ⊢
    show List.Perm _ (List.range (traffic.queue.nextAck + 1))
    rw [List.range_succ]
    exact List.perm_middle.trans ((entries.cons _).trans (List.perm_append_singleton _ _).symm)
  polls poll member := by
    obtain ⟨bounded, ordered⟩ := sound.polls poll member
    exact ⟨bounded, ordered.trans (List.sublist_append_left _ _)⟩
  batches := sound.batches

/-- A call takes items from the front of the queue. -/
theorem takeItems (sound : traffic.Sound) {before after : List Poll} {poll : Poll} (ticket : Nat)
    (here : traffic.polls = before ++ poll :: after) (bare : poll.poller.batch = []) :
    Sound
      { traffic with
        queue := { traffic.queue with items := traffic.queue.items.drop (max poll.most 1) }
        polls := before ++
          { poll with
            poller := .telling ticket (traffic.queue.items.take (max poll.most 1)) } :: after
        departed := traffic.departed ++
          (traffic.queue.items.take (max poll.most 1)).map .handed } where
  custody := sound.custody.depart (fun _ => rfl) (List.take_append_drop _ _).symm
  refused member := by
    rcases List.mem_append.mp member with member | member
    · exact sound.refused member
    · -- What leaves now is handed out, not taken away.
      obtain ⟨pending, _, same⟩ := List.mem_map.mp member
      cases same
  refusing member := by
    -- What is about to be refused left before this.
    obtain ⟨pending, left, same⟩ := sound.refusing member
    exact ⟨pending, List.mem_append_left _ left, same⟩
  pushes push member := (sound.pushes push member).mono (fun known => known) (List.Sublist.refl _)
  entries := sound.entries
  polls := by
    have others := sound.polls
    rw [here] at others
    refine forall_mem_replace others ⟨List.length_take_le _ _, (List.take_sublist _ _).trans ?_⟩
    -- What is queued is the end of what was accepted.
    rw [sound.custody.conserved]
    exact List.sublist_append_right _ _
  batches := by
    have batches := sound.batches
    rw [here, List.flatMap_append, List.flatMap_cons, bare, List.nil_append] at batches
    have handed : ∀ items : List Pending,
        (items.map Departure.handed).filterMap (·.handed?) = items := by
      intro items
      rw [List.filterMap_map]
      exact List.filterMap_some
    show List.Perm (List.filterMap _ (traffic.departed ++ _)) _
    rw [List.filterMap_append, handed, List.flatMap_append, List.flatMap_cons]
    -- The new batch goes from the end of the list to the place of its call.
    refine (batches.append_right _).trans ?_
    rw [List.append_assoc]
    exact List.perm_append_comm.append_left _

/-- Of what is ordered, only what is about to be refused matters. -/
theorem of_orders (sound : traffic.Sound) {orders : List (List Chore)}
    (same : Chore.refusals orders = traffic.refusals) : Sound { traffic with orders } where
  custody := sound.custody
  refused member := by
    show _ ∨ _ ∈ Chore.refusals orders
    rw [same]
    exact sound.refused member
  refusing member := by
    apply sound.refusing
    rw [← same]
    exact member
  pushes := sound.pushes
  entries := sound.entries
  polls := sound.polls
  batches := sound.batches

/-- An order has come further, with nothing taken away and nobody answered. -/
theorem replaceOrder (sound : traffic.Sound) {before after : List (List Chore)} {chore : Chore}
    {rest : List Chore} (here : traffic.orders = before ++ (chore :: rest) :: after)
    (quiet : chore.refusal? = none) :
    Sound { traffic with orders := before ++ rest :: after } := by
  apply sound.of_orders
  rw [refusals, here, Chore.refusals_middle, Chore.refusals_middle,
    List.filterMap_cons_none quiet]

/-- A suspension takes everything away that is queued, and has yet to answer for it. -/
theorem takeAway (sound : traffic.Sound) {before after : List (List Chore)} {rest : List Chore}
    (here : traffic.orders = before ++ (.markSuspended :: rest) :: after) :
    Sound
      { traffic with
        queue := { traffic.queue with suspended := true, items := [] }
        orders := before ++ Chore.remaining traffic.queue.items rest :: after
        departed := traffic.departed ++ traffic.queue.items.map .withdrawn } := by
  -- The order has yet to refuse everything that it takes away.
  have more : ∀ ack, ack ∈ Chore.refusals
      (before ++ Chore.remaining traffic.queue.items rest :: after) ↔
      ack ∈ traffic.refusals ∨ ack ∈ traffic.queue.items.map (·.ack) := by
    intro ack
    rw [refusals, here, Chore.refusals_middle, Chore.refusals_middle, Chore.filterMap_remaining,
      List.filterMap_cons_none rfl]
    simp only [List.mem_append]
    tauto
  constructor
  case custody =>
    exact (sound.custody.depart (fun _ => rfl)
      (List.append_nil _).symm).of_stock rfl
  case refused =>
    intro pending member
    -- Whatever was taken away is answered or has its refusal due, whether it went before or now.
    rw [refusals, more]
    rcases List.mem_append.mp member with member | member
    · exact (sound.refused member).imp_right .inl
    · obtain ⟨queued, member, same⟩ := List.mem_map.mp member
      cases same
      exact .inr (.inr (List.mem_map.mpr ⟨_, member, rfl⟩))
  case refusing =>
    -- Whatever has its refusal due was taken away, before or now.
    intro ack member
    rw [refusals, more] at member
    rcases member with member | member
    · obtain ⟨pending, left, same⟩ := sound.refusing member
      exact ⟨pending, List.mem_append_left _ left, same⟩
    · obtain ⟨pending, member, same⟩ := List.mem_map.mp member
      exact ⟨pending, List.mem_append_right _ (List.mem_map.mpr ⟨pending, member, rfl⟩), same⟩
  case pushes =>
    exact fun push member =>
      (sound.pushes push member).mono (fun known => known) (List.Sublist.refl _)
  case entries => exact sound.entries
  case polls => exact sound.polls
  -- What is taken away is not handed out, so no call that polls has it.
  case batches =>
    have unhanded : (traffic.queue.items.map Departure.withdrawn).filterMap (·.handed?) = [] := by
      rw [List.filterMap_map]
      exact List.filterMap_eq_nil_iff.mpr fun _ _ => rfl
    show List.Perm (List.filterMap _ (traffic.departed ++ _)) _
    rw [List.filterMap_append, unhanded, List.append_nil]
    exact sound.batches

/-- An item that has left is answered for as it may be. -/
theorem settle (sound : traffic.Sound) {departure : Departure} {answer : Answer}
    (left : departure ∈ traffic.departed) (allowed : departure.Allows answer) :
    Sound { traffic with queue := traffic.queue.settle answer departure.pending.ack } where
  custody := sound.custody.settle left allowed
  refused member := by
    -- What was refused stays so.
    refine (sound.refused member).imp_left fun answered => ?_
    obtain ⟨given, known⟩ := Option.isSome_iff_exists.mp answered
    exact Option.isSome_iff_exists.mpr ⟨given, Queue.extends_settle _ _ _ known⟩
  refusing := sound.refusing
  pushes push member :=
    (sound.pushes push member).mono (Queue.extends_settle _ _ _) (List.Sublist.refl _)
  entries := by
    show List.Perm _ (List.range (traffic.queue.settle answer departure.pending.ack).nextAck)
    rw [(Queue.settle_stock _ _ _).2.2]
    exact sound.entries
  polls := sound.polls
  batches := sound.batches

/-- A suspension answers for an item that it has taken away. -/
theorem refuse (sound : traffic.Sound) {before after : List (List Chore)} {ack : Nat}
    {rest : List Chore} (here : traffic.orders = before ++ (.refuse ack :: rest) :: after) :
    Sound
      { traffic with
        queue := traffic.queue.settle (.error .closed) ack
        orders := before ++ rest :: after } := by
  -- The order has one refusal less to make.
  have fewer : ∀ other, other ∈ traffic.refusals ↔
      other = ack ∨ other ∈ Chore.refusals (before ++ rest :: after) := by
    intro other
    have first : (Chore.refuse ack :: rest).filterMap (·.refusal?) =
        ack :: rest.filterMap (·.refusal?) := rfl
    rw [refusals, here, Chore.refusals_middle, Chore.refusals_middle, first]
    simp only [List.mem_append, List.mem_cons]
    tauto
  obtain ⟨pending, left, rfl⟩ := sound.refusing ((fewer ack).mpr (.inl rfl))
  have allowed : (Departure.withdrawn pending).Allows (.error .closed) := rfl
  have settled := sound.settle left allowed
  constructor
  case custody => exact settled.custody
  case refused =>
    intro other member
    -- Whoever had been answered still is.
    rcases settled.refused member with answered | waiting
    · exact .inl answered
    · rcases (fewer _).mp waiting with same | waiting
      · -- This is the item that is answered for now.
        refine .inl ?_
        show ((traffic.queue.settle _ _).answer? _).isSome = true
        rw [same, Queue.answer?_settle]
        cases traffic.queue.answer? pending.ack <;> simp
      · exact .inr waiting
  case refusing => exact fun member => settled.refusing ((fewer _).mpr (.inr member))
  case pushes => exact settled.pushes
  case entries => exact settled.entries
  case polls => exact settled.polls
  case batches => exact settled.batches

/-- Everything stays sound with a step of a call that pushes. -/
theorem stepPush (sound : traffic.Sound) {before after : List Push} {push : Push} {queue : Queue}
    {pusher : Pusher} (here : traffic.pushes = before ++ push :: after)
    (steps : push.pusher.Steps traffic.queue queue pusher) :
    Sound
      { traffic with
        queue
        pushes := before ++ push.advance pusher :: after
        accepted := traffic.accepted ++ pusher.queued push.item } := by
  obtain ⟨queued, stands⟩ := sound.pushes push (by simp [here])
  -- The call keeps its number unless it is given one.
  have entry : ∀ next : Pusher, next.queued push.item = [] →
      (push.advance next).entry = push.entry := by
    intro next quiet
    simp [Push.advance, quiet]
  -- Unless the item is queued now, the call goes on with the stock as it is.
  have goOn : ∀ later : Queue, later.stock = traffic.queue.stock → ∀ next : Pusher,
      next.queued push.item = [] → next.Stands traffic.queue push.item push.entry →
      Sound
        { traffic with
          queue := later
          pushes := before ++ push.advance next :: after
          accepted := traffic.accepted ++ next.queued push.item } := by
    intro later same next quiet stands
    rw [quiet, List.append_nil]
    refine (sound.replacePush here (entry next quiet) ⟨?_, ?_⟩).of_stock same
    · rw [entry next quiet]
      exact queued
    · rw [entry next quiet]
      exact stands
  cases pusher_eq : push.pusher <;> rw [pusher_eq] at steps stands <;> cases steps
  case arriving item => exact goOn _ (by rfl) _ (by rfl) stands
  -- Only the attempt that finds room queues the item,
  case trying.queued item ticket accepting room =>
    obtain ⟨rfl, none⟩ := stands
    have joined := sound.queueItem here none room ticket
    simpa [Push.advance, Pusher.queued, none] using joined
  case trying.full item ticket crowded => exact goOn _ (by rfl) _ (by rfl) stands
  -- the one that is refused is told so without a number,
  case trying.refused item ticket refusing =>
    have told : (Pusher.finished (.error .closed)).Stands traffic.queue push.item push.entry :=
      .inl ⟨stands.2, rfl⟩
    exact goOn _ (by rfl) _ (by rfl) told
  case parked item ticket called => exact goOn _ (by rfl) _ (by rfl) stands
  case announcing ticket ack => exact goOn _ (by rfl) _ (by rfl) stands
  -- and the one that waits is told the answer that was given to its number.
  case awaiting ack answer given =>
    have told : (Pusher.finished answer).Stands traffic.queue push.item push.entry :=
      .inr ⟨ack, stands, given⟩
    exact goOn _ (by rfl) _ (by rfl) told

/-- It stays sound with a step of a call that polls. -/
theorem stepPoll (sound : traffic.Sound) {before after : List Poll} {poll : Poll} {queue : Queue}
    {poller : Poller} (here : traffic.polls = before ++ poll :: after)
    (steps : poll.poller.Steps poll.most traffic.queue queue poller) :
    Sound
      { traffic with
        queue
        polls := before ++ { poll with poller } :: after
        departed := traffic.departed ++ poller.taken.map .handed } := by
  -- Unless items are taken now, the call goes on with the stock as it is.
  have goOn : ∀ later : Queue, later.stock = traffic.queue.stock → ∀ next : Poller,
      next.taken = [] → next.batch = poll.poller.batch →
      Sound
        { traffic with
          queue := later
          polls := before ++ { poll with poller := next } :: after
          departed := traffic.departed ++ next.taken.map .handed } := by
    intro later same next quiet batch
    rw [quiet, List.map_nil, List.append_nil]
    have replaced : Sound
        { traffic with polls := before ++ { poll with poller := next } :: after } :=
      sound.replacePoll here rfl batch
    exact replaced.of_stock same
  cases poller_eq : poll.poller <;> rw [poller_eq] at steps <;> cases steps
  case starting => exact goOn _ (by rfl) _ (by rfl) (by rw [poller_eq]; rfl)
  -- Only a look at a queue with items takes any.
  case looking.took ticket filled => exact sound.takeItems ticket here (by rw [poller_eq]; rfl)
  case looking.refused ticket bare refusing =>
    exact goOn _ (by rfl) _ (by rfl) (by rw [poller_eq]; rfl)
  case looking.empty ticket bare => exact goOn _ (by rfl) _ (by rfl) (by rw [poller_eq]; rfl)
  case parked ticket called => exact goOn _ (by rfl) _ (by rfl) (by rw [poller_eq]; rfl)
  case telling ticket batch => exact goOn _ (by rfl) _ (by rfl) (by rw [poller_eq]; rfl)

/-- It stays sound with one of the things that closing, suspending or resuming comes to. -/
theorem performChore (sound : traffic.Sound) {before after : List (List Chore)} {chore : Chore}
    {rest : List Chore} (here : traffic.orders = before ++ (chore :: rest) :: after) :
    Sound
      { traffic with
        queue := (chore.perform traffic.queue).1
        orders := before ++ Chore.remaining (chore.perform traffic.queue).2 rest :: after
        departed := traffic.departed ++ (chore.perform traffic.queue).2.map .withdrawn } := by
  -- Most chores take nothing away, and leave the stock as it is.
  have goOn : chore.refusal? = none → ∀ later : Queue, later.stock = traffic.queue.stock →
      Sound
        { traffic with
          queue := later
          orders := before ++ Chore.remaining [] rest :: after
          departed := traffic.departed ++ [].map .withdrawn } := by
    intro quiet later same
    rw [List.map_nil, List.append_nil]
    exact (sound.replaceOrder here quiet).of_stock same
  cases chore with
  -- Suspending takes away what is queued,
  | markSuspended => exact sound.takeAway here
  -- its refusals answer for that,
  | refuse ack =>
    have refused := sound.refuse here
    simpa [Chore.perform, Chore.remaining] using refused
  -- and whatever else is to be done touches the gates and who may push.
  | markClosed => exact goOn rfl _ (by rfl)
  | wakePushers => exact goOn rfl _ (by rfl)
  | wakePollers => exact goOn rfl _ (by rfl)
  | resume => exact goOn rfl _ (by rfl)

/-- A call that pushes begins. -/
theorem arrive (sound : traffic.Sound) (item : Item) :
    Sound { traffic with pushes := traffic.pushes ++ [⟨item, .arriving item, none, true⟩] } where
  custody := sound.custody
  refused := sound.refused
  refusing := sound.refusing
  pushes push member := by
    rcases List.mem_append.mp member with member | member
    · exact sound.pushes push member
    · -- A call that has just begun has no number.
      cases List.mem_singleton.mp member
      exact ⟨fun entry => (nomatch entry), rfl, rfl⟩
  entries := by
    show List.Perm (List.filterMap _ (traffic.pushes ++ [_])) _
    rw [List.filterMap_append]
    simpa using sound.entries
  polls := sound.polls
  batches := sound.batches

/-- Whoever leaves only gives a ticket back. -/
theorem leavePush (sound : traffic.Sound) {before after : List Push} {push : Push}
    (here : traffic.pushes = before ++ push :: after) :
    Sound
      { traffic with
        queue := push.pusher.giveUp traffic.queue
        pushes := before ++ { push with present := false } :: after } := by
  -- Whether the caller is still there matters to nobody.
  have fine := sound.pushes push (by simp [here])
  have replaced : Sound
      { traffic with pushes := before ++ { push with present := false } :: after } :=
    sound.replacePush here rfl ⟨fine.queued, fine.stands⟩
  refine replaced.of_stock ?_
  cases push.pusher <;> rfl

/-- A call that polls begins. -/
theorem request (sound : traffic.Sound) (most : Nat) :
    Sound { traffic with polls := traffic.polls ++ [⟨most, .starting, true⟩] } where
  custody := sound.custody
  refused := sound.refused
  refusing := sound.refusing
  pushes := sound.pushes
  entries := sound.entries
  polls poll member := by
    rcases List.mem_append.mp member with member | member
    · exact sound.polls poll member
    · -- A call that has just begun has no items.
      cases List.mem_singleton.mp member
      exact ⟨Nat.zero_le _, List.nil_sublist _⟩
  batches := by
    show traffic.handed.Perm (List.flatMap _ (traffic.polls ++ [_]))
    rw [List.flatMap_append]
    simpa [Poller.batch] using sound.batches

/-- A call that polls and is dropped only gives a ticket back. -/
theorem leavePoll (sound : traffic.Sound) {before after : List Poll} {poll : Poll}
    (here : traffic.polls = before ++ poll :: after) :
    Sound
      { traffic with
        queue := poll.poller.giveUp traffic.queue
        polls := before ++ { poll with present := false } :: after } := by
  -- Here, too, only the caller is gone.
  have replaced : Sound
      { traffic with polls := before ++ { poll with present := false } :: after } :=
    sound.replacePoll here rfl rfl
  refine replaced.of_stock ?_
  cases poll.poller <;> rfl

/-- A call that closes, suspends or resumes the queue begins. -/
theorem order (sound : traffic.Sound) {chores : List Chore}
    (quiet : chores.filterMap (·.refusal?) = []) :
    Sound { traffic with orders := traffic.orders ++ [chores] } := by
  apply sound.of_orders
  rw [Chore.refusals_middle, quiet]
  exact List.append_nil _

/-- Whoever moves next, what held before holds. -/
theorem move (sound : traffic.Sound) (moved : Move traffic later) : later.Sound := by
  cases moved with
  | arrive item => exact sound.arrive item
  | push before after push queue pusher here present stepped =>
    exact sound.stepPush here (Pusher.step?_steps stepped)
  | leavePush before after push here present free => exact sound.leavePush here
  | request most => exact sound.request most
  | poll before after poll queue poller here present stepped =>
    exact sound.stepPoll here (Poller.step?_steps stepped)
  | leavePoll before after poll here present free => exact sound.leavePoll here
  | order chores known =>
    refine sound.order ?_
    -- None of the orders begins with refusals.
    rcases known with rfl | rfl | rfl <;> rfl
  | chore before after chore rest here => exact sound.performChore here

/-- Whatever happens next, what held before holds. -/
theorem step (sound : traffic.Sound) (step : Step traffic later) : later.Sound := by
  cases step with
  | move moved => exact sound.move moved
  | answer pending answer holds open_ =>
    -- Only what was handed out can be answered by whoever holds it.
    obtain ⟨departure, left, handed⟩ := List.mem_filterMap.mp holds
    cases departure with
    | handed own =>
      cases handed
      exact sound.settle left open_
    | withdrawn own => cases handed

end Sound

/-- A move does not change the capacity, and answers nobody but the pusher of an item that a
suspension took away. -/
theorem Move.keeps (moved : Move traffic later) :
    later.queue.capacity = traffic.queue.capacity ∧
    (later.queue.answers = traffic.queue.answers ∨
      ∃ refused ∈ traffic.refusals,
        later.queue = traffic.queue.settle (.error .closed) refused) := by
  cases moved with
  -- Calls that begin or are dropped answer nobody, and neither do steps of pushers and pollers.
  | arrive item | request most | order chores known => exact ⟨rfl, .inl rfl⟩
  | push before after push queue pusher here present stepped =>
    obtain ⟨capacity, answers⟩ := (Pusher.step?_steps stepped).keeps
    exact ⟨capacity, .inl answers⟩
  | poll before after poll queue poller here present stepped =>
    obtain ⟨capacity, answers⟩ := (Poller.step?_steps stepped).keeps
    exact ⟨capacity, .inl answers⟩
  | leavePush before after push here present free =>
    cases push.pusher <;> exact ⟨rfl, .inl rfl⟩
  | leavePoll before after poll here present free =>
    cases poll.poller <;> exact ⟨rfl, .inl rfl⟩
  | chore before after chore rest here =>
    cases chore with
    | refuse ack =>
      -- Only a refusal under way answers, and it is one of those that were due.
      have due : ack ∈ traffic.refusals := by
        rw [refusals, here, Chore.refusals_middle]
        exact List.mem_append_right _ (List.mem_append_left _ List.mem_cons_self)
      exact ⟨(Queue.settle_stock _ _ _).1, .inr ⟨ack, due, rfl⟩⟩
    | _ => exact ⟨rfl, .inl rfl⟩

/-- At every moment, whatever came before, everything is sound. -/
theorem Reachable.sound {capacity : Nat} (reached : Reachable capacity traffic) :
    traffic.Sound := by
  induction reached with
  -- What one step keeps is kept by all of them.
  | start => exact sound_ofCapacity capacity
  | next _ step ih => exact ih.step step

end Traffic

end BatchFlow.Handoff
