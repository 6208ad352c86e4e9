import BatchFlow.Proofs.Worker.Resumption

/-! A producer over a list that is polled again and again: it yields its list once and then nothing,
until its 64-bit count rolls over. -/

namespace BatchFlow

namespace StaticItems

/-- The index of the next item. -/
def start (producer : StaticItems) : Nat := min producer.cursor.toNat producer.items.length

/-- The items that a poll takes. -/
def batch (producer : StaticItems) : List Item :=
  (producer.items.drop producer.start).take producer.stride.toNat

/-- A producer after so many polls. -/
def after (producer : StaticItems) : Nat → StaticItems
  | 0 => producer
  | count + 1 => (producer.after count).poll.1

/-- What a poll answers after so many others, which is nothing at all if it panics. -/
def answer (producer : StaticItems) (count : Nat) : Option (Option (List Item)) :=
  (producer.after count).poll.2

/-- All items that so many polls yield. -/
def yielded (producer : StaticItems) : Nat → List Item
  | 0 => []
  | count + 1 => producer.yielded count ++ ((producer.answer count).getD none).getD []

/-- So many polls yield a list once, and nothing any more after its end. -/
structure YieldsOnce (producer : StaticItems) (polls : Nat) : Prop where
  answers : ∀ count < polls, producer.answer count ≠ none
  fits : ∀ count < polls, ∀ items, producer.answer count = some (some items) →
    items ≠ [] ∧ items.length ≤ producer.batchSize.toNat
  begins : producer.yielded polls <+: producer.items
  stays : ∀ count ≤ polls, (producer.after count).isExhausted = true →
    (∀ later ≤ polls, count ≤ later → (producer.after later).isExhausted = true) ∧
      ∀ later < polls, count ≤ later → producer.answer later = some none

variable {producer : StaticItems} {polls count : Nat}

/-- A poll moves the position, whether it yields anything, nothing, or panics. -/
theorem poll_fst (producer : StaticItems) :
    producer.poll.1 = { producer with cursor := producer.cursor + producer.stride } := by
  unfold poll
  -- The position moves before anything is taken from the list.
  dsimp only
  split
  · rfl
  · split <;> rfl

/-- A poll answers if the end of its batch is a 64-bit count, and then yields the batch unless that
is empty. -/
theorem poll_snd (producer : StaticItems)
    (room : producer.start + producer.stride.toNat < twoTo 64) :
    ∃ reply, producer.poll.2 = some reply ∧ reply ≠ some [] ∧
      reply.getD [] = producer.batch := by
  have taken : (producer.items.drop (min producer.cursor.toNat producer.items.length)).take
      producer.stride.toNat = producer.batch := rfl
  rw [start] at room
  simp only [poll, if_neg (Nat.not_le.mpr room), taken]
  -- An empty batch is answered with nothing.
  cases producer.batch with
  | nil => exact ⟨none, rfl, by simp, rfl⟩
  | cons first rest => exact ⟨some (first :: rest), rfl, by simp, rfl⟩

/-- A poll for whose batch there is no room panics, so one that answers had it. -/
theorem room_of_answer (answers : producer.poll.2 ≠ none) :
    producer.start + producer.stride.toNat < twoTo 64 := by
  -- Without room the poll would have no answer.
  refine Decidable.by_contra fun full => answers ?_
  rw [start, Nat.not_lt] at full
  simp only [poll, if_pos full]

/-- Options that nothing is wrong with are taken as they are. -/
theorem stride_eq (accepted : producer.problems = []) :
    producer.stride.toNat = producer.batchSize.toNat := by
  have sized : producer.batchSize ≠ 0 := by
    intro unsized
    rw [problems, if_pos unsized] at accepted
    cases accepted
  have positive : producer.batchSize.toNat ≠ 0 := fun zero => sized (UInt64.toNat_inj.mp zero)
  -- The stride is the size, but for a size of which none is accepted.
  show (if producer.batchSize ≤ 1 then 1 else producer.batchSize).toNat = _
  split
  · rename_i least
    have bounded : producer.batchSize.toNat ≤ 1 := UInt64.le_iff_toNat_le.mp least
    show 1 = _
    omega
  · rfl

/-- A producer is exhausted when the next item would be after its last. -/
theorem isExhausted_iff :
    producer.isExhausted = true ↔ producer.start = producer.items.length := by
  simp only [isExhausted, remaining, start, beq_iff_eq]
  omega

/-- Polls leave the list as it is. -/
@[simp] theorem after_items (producer : StaticItems) (count : Nat) :
    (producer.after count).items = producer.items := by
  induction count with
  | zero => rfl
  | succ count ih => rw [after, poll_fst, ih]

/-- Polls leave the size of the batches as it is. -/
@[simp] theorem after_batchSize (producer : StaticItems) (count : Nat) :
    (producer.after count).batchSize = producer.batchSize := by
  induction count with
  | zero => rfl
  | succ count ih => rw [after, poll_fst, ih]

/-- Polls leave the stride as it is. -/
@[simp] theorem after_stride (producer : StaticItems) (count : Nat) :
    (producer.after count).stride = producer.stride := by
  rw [stride, after_batchSize, stride]

/-- The position is the number of polls times their stride, as far as that is a 64-bit count. -/
theorem after_cursor (fresh : producer.cursor = 0) (count : Nat) :
    (producer.after count).cursor.toNat = count * producer.stride.toNat % twoTo 64 := by
  have word : twoTo 64 = 2 ^ 64 := rfl
  -- A remainder may be taken after each poll as well as once for all of them.
  induction count with
  | zero => simp [after, fresh]
  | succ count ih =>
    rw [after, poll_fst]
    dsimp only
    rw [UInt64.toNat_add, ih, after_stride, ← word, Nat.mod_add_mod, Nat.succ_mul]

/-- The position where a producer with an unbounded count would be after so many polls. -/
def reach (producer : StaticItems) (count : Nat) : Nat :=
  min (count * producer.stride.toNat) producer.items.length

/-- The position after so many polls is where it would be with an unbounded count. -/
def InStep (producer : StaticItems) (count : Nat) : Prop :=
  min (count * producer.stride.toNat % twoTo 64) producer.items.length = producer.reach count

/-- A poll after so many others would not go beyond a 64-bit count. -/
def HasRoom (producer : StaticItems) (count : Nat) : Prop :=
  producer.reach count + producer.stride.toNat < twoTo 64

/-- A producer in step is where it should be. -/
theorem InStep.start_eq (inStep : producer.InStep count) (fresh : producer.cursor = 0) :
    (producer.after count).start = producer.reach count := by
  rw [start, after_cursor fresh, after_items]
  exact inStep

/-- A producer in step is exhausted if all its items were polled. -/
theorem InStep.isExhausted_iff (inStep : producer.InStep count) (fresh : producer.cursor = 0) :
    (producer.after count).isExhausted = true ↔
      producer.items.length ≤ count * producer.stride.toNat := by
  rw [StaticItems.isExhausted_iff, inStep.start_eq fresh, after_items, reach]
  omega

/-- A producer in step that has room answers with the next items. -/
theorem InStep.answer_eq (inStep : producer.InStep count) (room : producer.HasRoom count)
    (fresh : producer.cursor = 0) :
    ∃ reply, producer.answer count = some reply ∧ reply ≠ some [] ∧
      reply.getD [] =
        (producer.items.drop (count * producer.stride.toNat)).take producer.stride.toNat := by
  have begun := inStep.start_eq fresh
  obtain ⟨reply, answered, filled, taken⟩ :=
    (producer.after count).poll_snd (by rwa [begun, after_stride])
  refine ⟨reply, answered, filled, ?_⟩
  rw [taken, batch, begun, after_items, after_stride, reach]
  -- Beyond the end of the list there is nothing to drop.
  rcases Nat.le_total (count * producer.stride.toNat) producer.items.length with within | beyond
  · rw [Nat.min_eq_left within]
  · rw [Nat.min_eq_right beyond, List.drop_length, List.drop_eq_nil_of_le beyond]

/-- As long as a producer is in step and has room, its polls yield the first items of the list. -/
theorem yielded_eq (fresh : producer.cursor = 0) (inStep : ∀ count < polls, producer.InStep count)
    (room : ∀ count < polls, producer.HasRoom count) :
    producer.yielded polls = producer.items.take (polls * producer.stride.toNat) := by
  -- The items of the last poll begin where those of the earlier ones end.
  induction polls with
  | zero => simp [yielded]
  | succ polls ih =>
    have sooner := ih (fun count less => inStep count (by omega))
      fun count less => room count (by omega)
    obtain ⟨reply, answered, -, taken⟩ :=
      (inStep polls (by omega)).answer_eq (room polls (by omega)) fresh
    rw [yielded, sooner, answered, Option.getD_some, taken, Nat.succ_mul, List.take_add]

/-- As long as a producer is in step and has room, its list is yielded once. -/
theorem yieldsOnce_of_inStep (fresh : producer.cursor = 0) (accepted : producer.problems = [])
    (inStep : ∀ count ≤ polls, producer.InStep count)
    (room : ∀ count < polls, producer.HasRoom count) : producer.YieldsOnce polls := by
  have stride := producer.stride_eq accepted
  constructor
  case answers =>
    -- There is an answer to each poll.
    intro count less
    obtain ⟨reply, answered, -⟩ := (inStep count (by omega)).answer_eq (room count less) fresh
    simp [answered]
  case fits =>
    -- A batch has an item and no more of them than a stride.
    intro count less items shown
    obtain ⟨reply, answered, filled, taken⟩ :=
      (inStep count (by omega)).answer_eq (room count less) fresh
    cases answered.symm.trans shown
    refine ⟨fun empty => filled (congrArg some empty), ?_⟩
    rw [← stride, show items = _ from taken]
    exact List.length_take_le ..
  case begins =>
    -- What was yielded so far begins the list.
    rw [yielded_eq fresh (fun count less => inStep count (by omega)) room]
    exact List.take_prefix ..
  case stays =>
    intro count most exhausted
    have passed := ((inStep count most).isExhausted_iff fresh).mp exhausted
    -- An unbounded count only grows, so it stays beyond the end of the list.
    have beyond : ∀ later, count ≤ later →
        producer.items.length ≤ later * producer.stride.toNat := fun later late =>
      Nat.le_trans passed (Nat.mul_le_mul_right _ late)
    have still : ∀ later ≤ polls, count ≤ later → (producer.after later).isExhausted = true :=
      fun later most late => ((inStep later most).isExhausted_iff fresh).mpr (beyond later late)
    -- There the next batch would be empty, and an empty batch is none.
    refine ⟨still, fun later less late => ?_⟩
    obtain ⟨reply, answered, filled, taken⟩ :=
      (inStep later (by omega)).answer_eq (room later less) fresh
    rw [List.drop_eq_nil_of_le (beyond later late), List.take_nil] at taken
    rw [answered]
    cases reply with
    | none => rfl
    | some items => exact absurd (congrArg some taken) filled

/-- A producer whose list is yielded once is in step all the time, and has room. -/
theorem YieldsOnce.inStep (once : producer.YieldsOnce polls) (fresh : producer.cursor = 0) :
    (∀ count ≤ polls, producer.InStep count) ∧ ∀ count < polls, producer.HasRoom count := by
  -- A poll that answers had room, if its position was right.
  have roomy : ∀ count < polls, producer.InStep count → producer.HasRoom count := by
    intro count less inStep
    have room := room_of_answer (once.answers count less)
    rwa [inStep.start_eq fresh, after_stride] at room
  have inStep : ∀ count ≤ polls, producer.InStep count := by
    intro count
    induction count with
    | zero => simp [InStep, reach]
    | succ count ih =>
      intro most
      have before := ih (by omega)
      by_cases passed : producer.items.length ≤ count * producer.stride.toNat
      · -- The list stays exhausted, so the position is beyond its end, as it should be.
        have exhausted := (before.isExhausted_iff fresh).mpr passed
        have still := (once.stays count (by omega) exhausted).1 (count + 1) most (by omega)
        rw [isExhausted_iff, start, after_cursor fresh, after_items] at still
        rw [InStep, reach, still, Nat.succ_mul]
        omega
      · -- The position is within the list, so the poll that had room did not roll over.
        have room := roomy count (by omega) before
        rw [HasRoom, reach, Nat.min_eq_left (by omega)] at room
        rw [InStep, reach, Nat.succ_mul, Nat.mod_eq_of_lt room]
  exact ⟨inStep, fun count less => roomy count less (inStep count (by omega))⟩

/-- A producer over a list yields it once, in batches of at most the size it was given, exactly as
long as its 64-bit count of items stays in step, not having rolled over to a position that was
passed before, and leaves room for the end of the next batch. It does so at least as long as the
count does not roll over at all, and yields the whole list if that is long enough. But only an empty
list can be polled so forever. -/
theorem yields_once_until_rollover {items : List Item} {batchSize : UInt64}
    (accepted : (ofItems items batchSize).problems = []) :
    (∀ polls, (ofItems items batchSize).YieldsOnce polls ↔
      (∀ count ≤ polls, (ofItems items batchSize).InStep count) ∧
        ∀ count < polls, (ofItems items batchSize).HasRoom count) ∧
    (∀ polls, polls * batchSize.toNat < twoTo 64 →
      (ofItems items batchSize).YieldsOnce polls ∧
        (ofItems items batchSize).yielded polls = items.take (polls * batchSize.toNat)) ∧
    ((∀ polls, (ofItems items batchSize).YieldsOnce polls) ↔ items = []) := by
  have stride : (ofItems items batchSize).stride.toNat = batchSize.toNat := stride_eq accepted
  have precise : ∀ polls, (ofItems items batchSize).YieldsOnce polls ↔
      (∀ count ≤ polls, (ofItems items batchSize).InStep count) ∧
        ∀ count < polls, (ofItems items batchSize).HasRoom count := fun polls =>
    ⟨fun once => once.inStep rfl, fun kept => yieldsOnce_of_inStep rfl accepted kept.1 kept.2⟩
  refine ⟨precise, fun polls short => ?_, fun always => ?_, fun empty polls => ?_⟩
  · -- A count that does not roll over is in step and has room.
    have sooner : ∀ count ≤ polls, count * batchSize.toNat < twoTo 64 := fun count most =>
      Nat.lt_of_le_of_lt (Nat.mul_le_mul_right _ most) short
    have inStep : ∀ count ≤ polls, (ofItems items batchSize).InStep count := by
      intro count most
      rw [InStep, reach, stride, Nat.mod_eq_of_lt (sooner count most)]
    have room : ∀ count < polls, (ofItems items batchSize).HasRoom count := by
      intro count less
      have next := sooner (count + 1) less
      rw [Nat.succ_mul] at next
      rw [HasRoom, reach, stride]
      omega
    refine ⟨(precise polls).mpr ⟨inStep, room⟩, ?_⟩
    rw [yielded_eq rfl (fun count less => inStep count (Nat.le_of_lt less)) room, stride]
    rfl
  · -- After as many polls as there are counts, the position is back at the beginning.
    have back := ((precise (twoTo 64)).mp (always _)).1 (twoTo 64) (Nat.le_refl _)
    rw [InStep, reach, Nat.mul_mod_right, Nat.zero_min] at back
    have far : 0 < twoTo 64 * (ofItems items batchSize).stride.toNat :=
      Nat.mul_pos (by decide) (one_le_stride _)
    have short : items.length = 0 := (Nat.min_eq_zero_iff.mp back.symm).resolve_left (by omega)
    exact List.eq_nil_of_length_eq_zero short
  · -- With an empty list every count is in step, at the end of the list.
    subst empty
    have bounded := (ofItems [] batchSize).stride.toNat_lt
    have word : twoTo 64 = 2 ^ 64 := rfl
    refine (precise polls).mpr ⟨fun count _ => ?_, fun count _ => ?_⟩
    · exact (Nat.min_zero _).trans (Nat.min_zero _).symm
    · show min _ 0 + _ < _
      rwa [Nat.min_zero, Nat.zero_add, word]

/-- In batches of half as many items as there are counts, a list of one item is yielded by the
first poll, but after the second it is no longer exhausted. -/
theorem yields_once_until_rollover_halfway :
    (ofItems [.nat 1] (.ofNat (twoTo 63))).problems = [] ∧
      (ofItems [.nat 1] (.ofNat (twoTo 63))).YieldsOnce 1 ∧
      ¬ (ofItems [.nat 1] (.ofNat (twoTo 63))).YieldsOnce 2 := by
  have accepted : (ofItems [.nat 1] (.ofNat (twoTo 63))).problems = [] := by decide
  obtain ⟨precise, short, -⟩ := yields_once_until_rollover accepted
  refine ⟨accepted, (short 1 (by decide)).1, fun once => ?_⟩
  -- After two polls the cursor is at zero again, and the list is longer than that.
  have inStep := ((precise 2).mp once).1 2 (Nat.le_refl 2)
  exact absurd inStep (by unfold InStep; decide)

end StaticItems

end BatchFlow
