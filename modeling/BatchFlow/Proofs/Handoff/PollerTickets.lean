import BatchFlow.Proofs.Handoff.OtherCallers
import Mathlib.Data.List.Basic
import Mathlib.Data.List.Perm.Basic

/-! The gate for items knows the tickets of those who poll, each of them once, and no others. -/

namespace BatchFlow.Handoff

namespace Gate

variable {gate : Gate} {ticket : Nat}

/-- All tickets at a gate: those that wait, and those that were called. -/
def row (gate : Gate) : List Nat := gate.waiting ++ gate.woken.map (·.ticket)

/-- How many single calls have reached a ticket whose holder has not gone on yet. -/
def singles (gate : Gate) : Nat := gate.woken.countP (·.single)

/-- The row is of the tickets that the gate knows. -/
theorem mem_row : ticket ∈ gate.row ↔ gate.Knows ticket := by
  simp [row, Knows, isWoken]

/-- A new ticket joins the row, whether or not a permit was kept for it. -/
theorem row_register (gate : Gate) (ticket : Nat) :
    (gate.register ticket).row.Perm (ticket :: gate.row) := by
  unfold register
  split
  · -- The ticket is called at once, and comes last.
    have last : gate.row ++ [ticket] = gate.waiting ++ (gate.woken.map (·.ticket) ++ [ticket]) := by
      simp [row]
    simpa [row, last] using List.perm_append_singleton ticket gate.row
  · -- The ticket waits behind all others.
    simp [row, List.perm_middle]

/-- Calling a ticket changes nothing about who is in the row. -/
theorem row_wakeOne (gate : Gate) : gate.wakeOne.row.Perm gate.row := by
  unfold wakeOne
  split
  · exact .refl _
  · rename_i ticket rest queued
    -- The oldest ticket goes from the front to the end.
    have front : gate.row = ticket :: (rest ++ gate.woken.map (·.ticket)) := by simp [row, queued]
    rw [front]
    simpa [row] using List.perm_append_singleton ticket (rest ++ gate.woken.map (·.ticket))

/-- To call everybody moves those who wait behind those who were called, and nobody out. -/
theorem row_wakeAll (gate : Gate) : gate.wakeAll.row.Perm gate.row := by
  -- Those who wait are put behind the others.
  have called : gate.wakeAll.row = gate.woken.map (·.ticket) ++ gate.waiting := by
    simp [row, wakeAll, Function.comp_def]
  rw [called]
  exact List.perm_append_comm

/-- A ticket that is in the row once is gone when its holder goes on. -/
theorem row_leave (once : gate.row.Nodup) (called : gate.isWoken ticket = true) :
    (gate.leave ticket).row = gate.row.erase ticket := by
  have listed : ticket ∈ gate.woken.map (·.ticket) := by simpa [isWoken] using called
  obtain ⟨_, apart, disjoint⟩ := List.nodup_append.mp once
  have absent : ticket ∉ gate.waiting := by
    intro waits
    exact disjoint ticket waits ticket listed rfl
  -- So it is the called tickets from which it is taken.
  rw [row, row, List.erase_append_right _ absent, apart.erase_eq_filter]
  simp [leave, List.filter_map, Function.comp_def, bne]

/-- A ticket that is in the row once is gone when its holder stops waiting. -/
theorem row_withdraw (once : gate.row.Nodup) :
    (gate.withdraw ticket).row.Perm (gate.row.erase ticket) := by
  -- Passing a single call on leaves the row as it is.
  have left : ({ gate.leave ticket with waiting := gate.waiting.filter (· != ticket) } : Gate).row =
      gate.row.erase ticket := by
    rw [once.erase_eq_filter]
    simp [row, leave, List.filter_append, List.filter_map, Function.comp_def, bne]
  unfold withdraw
  dsimp only
  split
  · exact left ▸ row_wakeOne _
  · exact left ▸ .refl _

/-- A ticket that is drawn was called by a permit at most, which is no single call. -/
theorem singles_register (gate : Gate) (ticket : Nat) :
    (gate.register ticket).singles = gate.singles := by
  unfold register
  split <;> simp [singles]

/-- A call to everybody adds no single call. -/
theorem singles_wakeAll (gate : Gate) : gate.wakeAll.singles = gate.singles := by
  simp [singles, wakeAll, List.countP_map, Function.comp_def]

/-- A single call that finds somebody waiting is one more. -/
theorem singles_wakeOne (waits : gate.wakeOne.waiting ≠ []) :
    gate.wakeOne.singles = gate.singles + 1 := by
  -- Somebody waits afterwards, so somebody waited before and is called.
  unfold wakeOne at waits ⊢
  split
  · rename_i nobody
    simp [nobody] at waits
  · simp [singles]

/-- A ticket that is in the row once was called once at most. -/
theorem singles_leave (once : gate.row.Nodup) (ticket : Nat) :
    gate.singles ≤ (gate.leave ticket).singles + 1 := by
  have apart : (gate.woken.map (·.ticket)).Nodup := (List.nodup_append.mp once).2.1
  have split := List.countP_eq_countP_filter_add gate.woken (·.single) (·.ticket != ticket)
  -- Whatever is dropped are calls of this ticket.
  have dropped : (gate.woken.filter fun wakeup => !(wakeup.ticket != ticket)).countP
      (·.single) ≤ 1 := by
    have count := List.nodup_iff_count_le_one.mp apart ticket
    rw [List.count, List.countP_map] at count
    refine Nat.le_trans List.countP_le_length ?_
    rw [← List.countP_eq_length_filter]
    refine Nat.le_trans (Nat.le_of_eq (List.countP_congr ?_)) count
    simp
  simp only [singles, leave]
  omega

/-- A single call is not lost with a ticket that is given up, as long as anybody waits. -/
theorem singles_withdraw (once : gate.row.Nodup) (waits : (gate.withdraw ticket).waiting ≠ []) :
    gate.singles ≤ (gate.withdraw ticket).singles := by
  have bounded := singles_leave once ticket
  unfold withdraw at waits ⊢
  dsimp only at waits ⊢
  split
  · -- It is passed on to somebody who waits.
    rename_i unused
    rw [if_pos unused] at waits
    rw [singles_wakeOne waits]
    exact bounded
  · -- No single call is dropped.
    rename_i used
    refine Nat.le_of_eq ?_
    simp only [singles, leave, List.countP_filter]
    refine List.countP_congr fun wakeup listed => ?_
    simp only [List.any_eq_true, Bool.and_eq_true, beq_iff_eq, not_exists, not_and] at used
    have kept := used wakeup listed
    grind

end Gate

/-- The ticket that a poller holds. -/
def Poller.ticket? : Poller → Option Nat
  | looking ticket | parked ticket | telling ticket _ => some ticket
  | starting | finished _ => none

/-- The ticket of a caller who still polls. -/
def Poll.ticket? (poll : Poll) : Option Nat :=
  if poll.present then poll.poller.ticket? else none

/-- The caller has not been forgotten if it waits for an item: it was called. -/
def Poll.Called (queue : Queue) (poll : Poll) : Prop :=
  poll.present = true → ∀ ticket, poll.poller = .parked ticket →
    queue.notEmpty.isWoken ticket = true

/-- Those who push draw no ticket for items, and their calls leave the row as it is. -/
theorem Pusher.Steps.row {queue later : Queue} {pusher next : Pusher}
    (steps : pusher.Steps queue later next) :
    later.notEmpty.row.Perm queue.notEmpty.row ∧ queue.nextTicket ≤ later.nextTicket := by
  -- Only a caller that announces its item touches the gate for items.
  cases steps with
  | drawn => exact ⟨.refl _, Nat.le_succ _⟩
  | announced => exact ⟨Gate.row_wakeOne _, Nat.le_refl _⟩
  | _ => exact ⟨.refl _, Nat.le_refl _⟩

/-- What is done to close, suspend or resume the queue leaves the row for items as it is. -/
theorem Chore.row_perform (chore : Chore) (queue : Queue) :
    (chore.perform queue).1.notEmpty.row.Perm queue.notEmpty.row ∧
      queue.nextTicket ≤ (chore.perform queue).1.nextTicket := by
  -- Only a call to those who poll touches their gate.
  cases chore with
  | wakePollers => exact ⟨Gate.row_wakeAll _, Nat.le_refl _⟩
  | refuse ack =>
    unfold perform Queue.settle
    dsimp only
    split <;> exact ⟨.refl _, Nat.le_refl _⟩
  | _ => exact ⟨.refl _, Nat.le_refl _⟩

namespace Traffic

variable {traffic later : Traffic} {before after : List Poll} {poll next : Poll} {ticket : Nat}

/-- The tickets of those who poll. -/
def pollTickets (traffic : Traffic) : List Nat := traffic.polls.filterMap (·.ticket?)

/-- The gate for items knows the tickets of those who poll and no others, each of them once. -/
structure Seated (traffic : Traffic) : Prop where
  row : traffic.queue.notEmpty.row.Perm traffic.pollTickets
  distinct : traffic.pollTickets.Nodup
  drawn : ∀ ticket ∈ traffic.pollTickets, ticket < traffic.queue.nextTicket

/-- At a new queue the row is empty, and nobody polls. -/
theorem seated_ofCapacity (capacity : Nat) : (ofCapacity capacity).Seated where
  row := .refl _
  distinct := List.nodup_nil
  drawn ticket held := by cases held

/-- The tickets are those of one caller and of all the others. -/
theorem pollTickets_perm (here : traffic.polls = before ++ poll :: after) :
    traffic.pollTickets.Perm (poll.ticket?.toList ++ (before ++ after).filterMap (·.ticket?)) := by
  rw [pollTickets, here, List.filterMap_append, List.filterMap_append]
  cases held : poll.ticket? <;> simp [held]

/-- The ticket of somebody who polls is one of the tickets of those who poll. -/
theorem mem_pollTickets (listed : poll ∈ traffic.polls) (held : poll.ticket? = some ticket) :
    ticket ∈ traffic.pollTickets :=
  List.mem_filterMap.mpr ⟨poll, listed, held⟩

/-- Nobody stands in the row twice. -/
theorem Seated.once (seated : traffic.Seated) : traffic.queue.notEmpty.row.Nodup :=
  seated.row.nodup_iff.mpr seated.distinct

/-- Somebody who polls no further leaves everybody in the row with the tickets they hold. -/
theorem Seated.elsewhere (seated : traffic.Seated) (same : later.pollTickets = traffic.pollTickets)
    (row : later.queue.notEmpty.row.Perm traffic.queue.notEmpty.row)
    (count : traffic.queue.nextTicket ≤ later.queue.nextTicket) : later.Seated where
  row := same ▸ row.trans seated.row
  distinct := same ▸ seated.distinct
  drawn ticket held := Nat.lt_of_lt_of_le (seated.drawn ticket (same ▸ held)) count

/-- When one of those who poll keeps its ticket, or the lack of one, nothing changes in the row. -/
theorem Seated.keep (seated : traffic.Seated) (here : traffic.polls = before ++ poll :: after)
    (there : later.polls = before ++ next :: after) (same : next.ticket? = poll.ticket?)
    (row : later.queue.notEmpty = traffic.queue.notEmpty)
    (count : later.queue.nextTicket = traffic.queue.nextTicket) : later.Seated := by
  -- The tickets are the same, one by one.
  have tickets : later.pollTickets = traffic.pollTickets := by
    simp [pollTickets, here, there, List.filterMap_cons, same]
  exact seated.elsewhere tickets (row ▸ .refl _) (Nat.le_of_eq count.symm)

/-- When one of those who poll draws a ticket, it is a new one, and the row knows it. -/
theorem Seated.draw (seated : traffic.Seated) (here : traffic.polls = before ++ poll :: after)
    (there : later.polls = before ++ next :: after) (none : poll.ticket? = none)
    (drawn : next.ticket? = some traffic.queue.nextTicket)
    (row : later.queue.notEmpty = traffic.queue.notEmpty.register traffic.queue.nextTicket)
    (count : later.queue.nextTicket = traffic.queue.nextTicket + 1) : later.Seated := by
  -- The new ticket is larger than all others.
  have others : later.pollTickets.Perm (traffic.queue.nextTicket :: traffic.pollTickets) := by
    have old := pollTickets_perm here
    have new := pollTickets_perm there
    rw [none] at old
    rw [drawn] at new
    exact new.trans (old.symm.cons _)
  have fresh : traffic.queue.nextTicket ∉ traffic.pollTickets := by
    intro held
    exact Nat.lt_irrefl _ (seated.drawn _ held)
  refine ⟨?_, ?_, ?_⟩
  · rw [row]
    exact (Gate.row_register ..).trans ((seated.row.cons _).trans others.symm)
  · exact others.nodup_iff.mpr (List.nodup_cons.mpr ⟨fresh, seated.distinct⟩)
  · intro ticket held
    rw [count]
    rcases List.mem_cons.mp (others.mem_iff.mp held) with rfl | old
    · exact Nat.lt_succ_self _
    · exact Nat.lt_succ_of_lt (seated.drawn ticket old)

/-- When one of those who poll gives its ticket up, the row forgets that ticket and no other. -/
theorem Seated.drop (seated : traffic.Seated) (here : traffic.polls = before ++ poll :: after)
    (there : later.polls = before ++ next :: after) (held : poll.ticket? = some ticket)
    (dropped : next.ticket? = none)
    (row : later.queue.notEmpty.row.Perm (traffic.queue.notEmpty.row.erase ticket))
    (count : later.queue.nextTicket = traffic.queue.nextTicket) : later.Seated := by
  -- The caller's ticket was the only one of its number, so what is left are those of the others.
  have others : later.pollTickets.Perm (traffic.pollTickets.erase ticket) := by
    have old := (pollTickets_perm here).erase ticket
    have new := pollTickets_perm there
    rw [held] at old
    rw [dropped] at new
    simp only [Option.toList_some, List.singleton_append, List.erase_cons_head] at old
    exact new.trans old.symm
  refine ⟨?_, ?_, ?_⟩
  · exact row.trans ((seated.row.erase ticket).trans others.symm)
  · exact others.nodup_iff.mpr (seated.distinct.erase ticket)
  · intro other kept
    rw [count]
    exact seated.drawn other (List.mem_of_mem_erase (others.mem_iff.mp kept))

/-- The holder of a ticket is the only one to hold it. -/
theorem Seated.ticket_ne (seated : traffic.Seated)
    (here : traffic.polls = before ++ poll :: after) (held : poll.ticket? = some ticket)
    {other : Poll} (listed : other ∈ before ++ after) : other.ticket? ≠ some ticket := by
  -- With the holder first, no other ticket of the list is the same.
  intro also
  have distinct := (pollTickets_perm here).nodup_iff.mp seated.distinct
  rw [held] at distinct
  exact (List.nodup_cons.mp distinct).1 (List.mem_filterMap.mpr ⟨other, listed, also⟩)

end Traffic

end BatchFlow.Handoff
