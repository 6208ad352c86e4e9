import BatchFlow.Proofs.Handoff.Traffic
import Mathlib.Data.List.Nodup

/-! What every accepted item has in common with its acknowledgement, as long as it is queued and
after it has left. -/

namespace BatchFlow.Handoff

/-- What the custody of items is about: not the gates, and not who may push. -/
def Queue.stock (queue : Queue) : Nat × List Pending × Nat × List (Nat × Answer) :=
  (queue.capacity, queue.items, queue.nextAck, queue.answers)

/-- A queue within its bounds, in which every accepted item is queued or has left in its turn, and
in which only items that have left were answered for, each once and as it may be. -/
structure Custody (queue : Queue) (accepted : List Pending) (departed : List Departure) :
    Prop where
  roomy : 1 ≤ queue.capacity
  bounded : queue.items.length ≤ queue.capacity
  conserved : accepted = departed.map (·.pending) ++ queue.items
  numbered : accepted.map (·.ack) = List.range queue.nextAck
  answered : ∀ {ack answer}, queue.answer? ack = some answer →
    ∃ departure ∈ departed, departure.pending.ack = ack ∧ departure.Allows answer
  single : (queue.answers.map (·.1)).Nodup

/-- An answer that was given is not taken back. -/
def Queue.Extends (later earlier : Queue) : Prop :=
  ∀ {ack answer}, earlier.answer? ack = some answer → later.answer? ack = some answer

/-- An answer that was given stays the same when another item is answered for. -/
theorem Queue.extends_settle (queue : Queue) (answer : Answer) (ack : Nat) :
    (queue.settle answer ack).Extends queue := by
  intro other given known
  rw [answer?_settle]
  -- What is settled now was open, and so is not what is known.
  have apart : ¬ (ack = other ∧ queue.answer? ack = none) := by
    rintro ⟨rfl, open_⟩
    rw [open_] at known
    cases known
  rw [if_neg apart]
  exact known

/-- What is answered is told from the answers alone. -/
theorem Queue.answer?_of_answers {queue later : Queue} (same : later.answers = queue.answers)
    (ack : Nat) : later.answer? ack = queue.answer? ack := by
  rw [answer?, answer?, same]

/-- What is answered is told from the stock. -/
theorem Queue.answer?_of_stock {queue later : Queue} (same : later.stock = queue.stock)
    (ack : Nat) : later.answer? ack = queue.answer? ack := by
  -- The answers are the last part of the stock.
  simp only [stock, Prod.mk.injEq] at same
  exact answer?_of_answers same.2.2.2 ack

/-- An acknowledgement is open as long as no answer has its number. -/
theorem Queue.answer?_eq_none_iff {queue : Queue} {ack : Nat} :
    queue.answer? ack = none ↔ ∀ given ∈ queue.answers, given.1 ≠ ack := by
  simp only [answer?, Option.map_eq_none_iff, List.find?_eq_none, beq_iff_eq, ne_eq]

/-- Settling changes nothing but the answers. -/
theorem Queue.settle_stock (queue : Queue) (answer : Answer) (ack : Nat) :
    (queue.settle answer ack).capacity = queue.capacity ∧
    (queue.settle answer ack).items = queue.items ∧
    (queue.settle answer ack).nextAck = queue.nextAck := by
  unfold settle
  split <;> exact ⟨rfl, rfl, rfl⟩

namespace Custody

variable {queue later : Queue} {accepted : List Pending} {departed : List Departure}

/-- A new queue has accepted nothing, and nothing has left it. -/
theorem ofCapacity (capacity : Nat) : Custody (.ofCapacity capacity) [] [] where
  roomy := Nat.le_max_right _ _
  bounded := Nat.zero_le _
  conserved := rfl
  numbered := rfl
  answered known := by cases known
  single := List.nodup_nil

/-- Custody concerns only the stock. -/
theorem of_stock (custody : Custody queue accepted departed) (same : later.stock = queue.stock) :
    Custody later accepted departed := by
  -- What is asked of the queue can be told from its stock.
  have answers := Queue.answer?_of_stock same
  simp only [Queue.stock, Prod.mk.injEq] at same
  obtain ⟨capacity, items, nextAck, given⟩ := same
  constructor
  case roomy => rw [capacity]; exact custody.roomy
  case bounded => rw [capacity, items]; exact custody.bounded
  case conserved => rw [items]; exact custody.conserved
  case numbered => rw [nextAck]; exact custody.numbered
  case answered => exact fun known => custody.answered ((answers _).symm.trans known)
  case single => rw [given]; exact custody.single

/-- An item for which there is room joins the queue under the next number. -/
theorem accept (custody : Custody queue accepted departed) (item : Item)
    (room : queue.items.length < queue.capacity) :
    Custody (queue.joinedBy item) (accepted ++ [⟨item, queue.nextAck⟩]) departed where
  roomy := custody.roomy
  bounded := by
    -- There was room for one more.
    show (queue.items ++ [_]).length ≤ queue.capacity
    rw [List.length_append]
    exact room
  -- The new item is last among those accepted and among those queued,
  conserved := by simp [custody.conserved, Queue.joinedBy]
  -- and has the next number.
  numbered := by simp [custody.numbered, Queue.joinedBy, List.range_succ]
  answered := custody.answered
  single := custody.single

/-- Items that leave from the front of the queue have left in their turn. -/
theorem depart (custody : Custody queue accepted departed) {gone left : List Pending}
    {leaves : Pending → Departure} (same : ∀ pending, (leaves pending).pending = pending)
    (split : queue.items = gone ++ left) :
    Custody { queue with items := left } accepted (departed ++ gone.map leaves) where
  roomy := custody.roomy
  bounded := by
    have bounded := custody.bounded
    -- Fewer items are queued than before.
    rw [split, List.length_append] at bounded
    show left.length ≤ queue.capacity
    omega
  conserved := by
    -- The items that leave keep their order, and so do those that stay.
    have unchanged : (gone.map leaves).map (·.pending) = gone := by
      rw [List.map_map]
      exact (List.map_congr_left fun pending _ => same pending).trans (List.map_id gone)
    rw [custody.conserved, split, List.map_append, unchanged, List.append_assoc]
  numbered := custody.numbered
  answered known := by
    -- Whatever was answered for had left by then.
    obtain ⟨departure, member, rest⟩ := custody.answered known
    exact ⟨departure, List.mem_append_left _ member, rest⟩
  single := custody.single

/-- An item that has left is answered for as it may be. -/
theorem settle (custody : Custody queue accepted departed) {departure : Departure} {answer : Answer}
    (left : departure ∈ departed) (allowed : departure.Allows answer) :
    Custody (queue.settle answer departure.pending.ack) accepted departed := by
  -- Nothing but the answers is touched.
  obtain ⟨capacity, items, nextAck⟩ := queue.settle_stock answer departure.pending.ack
  constructor
  case roomy => rw [capacity]; exact custody.roomy
  case bounded => rw [capacity, items]; exact custody.bounded
  case conserved => rw [items]; exact custody.conserved
  case numbered => rw [nextAck]; exact custody.numbered
  case answered =>
    intro ack given known
    -- An answer that is known now is the new one or was known before.
    rw [Queue.answer?_settle] at known
    split at known
    · rename_i settled
      cases known
      exact ⟨departure, left, settled.1, allowed⟩
    · exact custody.answered known
  case single =>
    unfold Queue.settle
    split
    · exact custody.single
    · -- The number is new among the answers, because it was not found there.
      rename_i open_
      have absent := Queue.answer?_eq_none_iff.mp (Option.not_isSome_iff_eq_none.mp open_)
      rw [List.map_append, List.nodup_append]
      refine ⟨custody.single, by simp, ?_⟩
      intro ack member other last
      obtain ⟨given, old, rfl⟩ := List.mem_map.mp member
      rw [List.map_singleton, List.mem_singleton] at last
      rw [last]
      exact absent given old

/-- Every acknowledgement belongs to one accepted item. -/
theorem distinct (custody : Custody queue accepted departed) : (accepted.map (·.ack)).Nodup := by
  -- The acknowledgements are numbered from zero on.
  rw [custody.numbered]
  exact List.nodup_range

/-- Whatever left was accepted. -/
theorem mem_accepted (custody : Custody queue accepted departed) {departure : Departure}
    (left : departure ∈ departed) : departure.pending ∈ accepted := by
  rw [custody.conserved]
  exact List.mem_append_left _ (List.mem_map.mpr ⟨departure, left, rfl⟩)

/-- An item that is still queued has not left. -/
theorem departed_or_queued (custody : Custody queue accepted departed) {pending : Pending}
    {departure : Departure} (left : departure ∈ departed) (queued : pending ∈ queue.items) :
    departure.pending.ack ≠ pending.ack := by
  -- Those that left and those that are queued are different ones of the accepted.
  have distinct := custody.distinct
  rw [custody.conserved, List.map_append, List.nodup_append] at distinct
  exact distinct.2.2 _ (List.mem_map.mpr ⟨_, List.mem_map.mpr ⟨departure, left, rfl⟩, rfl⟩) _
    (List.mem_map.mpr ⟨pending, queued, rfl⟩)

/-- No item leaves twice, be it in one way or in two. -/
theorem departure_eq (custody : Custody queue accepted departed) {one other : Departure}
    (first : one ∈ departed) (second : other ∈ departed)
    (same : one.pending.ack = other.pending.ack) : one = other := by
  -- The numbers of those that left are distinct, so a number tells how its item left.
  have distinct := custody.distinct
  rw [custody.conserved, List.map_append, List.nodup_append, List.map_map] at distinct
  exact List.inj_on_of_nodup_map distinct.1 first second same

/-- A queued item was not answered for. -/
theorem open_of_queued (custody : Custody queue accepted departed) {pending : Pending}
    (queued : pending ∈ queue.items) : queue.answer? pending.ack = none := by
  -- An answer would mean that the item had left.
  cases known : queue.answer? pending.ack with
  | none => rfl
  | some answer =>
    obtain ⟨departure, left, same, _⟩ := custody.answered known
    exact absurd same (custody.departed_or_queued left queued)

end Custody

end BatchFlow.Handoff
