import BatchFlow.Producer.StaticItems
import BatchFlow.Proofs.Plan.Environment
import BatchFlow.Proofs.Worker.Sessions

/-! A worker over a list of items that fails and restarts goes on where it was, so that each item is
routed at most once and in order, and all of them unless it fails too often. -/

namespace BatchFlow

open Plan (Exchange Passes)

/-- A question whose answer matters to a worker over a list: about the list, the connection or the
end of the run. -/
def Call.matters : Call → Bool
  | .isCancelled | .pause _ | .connectProducer _ | .isExhausted _ | .contextOf _ | .setContext ..
  | .poll .. => true
  | _ => false

/-- A count that is short enough is read back as it was. -/
theorem Item.word?_nat {count : Nat} (short : count < twoTo 64) :
    (nat count).word? = some count := by
  -- A count is not negative, and small enough for a word.
  have below : (count : Int) < (twoTo 64 : Nat) := Int.ofNat_lt.mpr short
  simp only [nat, word?]
  rw [if_pos ⟨Int.natCast_nonneg _, below⟩]
  rfl

namespace StaticItems

/-- What a list is asked without being changed, or somebody else on its behalf: nobody cancels the
run, and every connection succeeds. -/
def answer? (producer : StaticItems) : (call : Call) → Option call.Reply
  | .isCancelled | .pause _ => some false
  | .connectProducer _ => some (.ok ())
  | .isExhausted _ => some producer.isExhausted
  | .contextOf _ => some (some producer.context)
  | _ => none

/-- What passes between a worker that nobody cancels and a list that it polls. Whatever else it asks
may be answered in any way. -/
inductive Turn : StaticItems → Exchange → StaticItems → Prop where
  | answered {producer : StaticItems} {call : Call} {reply : call.Reply}
      (own : producer.answer? call = some reply) : Turn producer ⟨call, reply⟩ producer
  | moved (producer : StaticItems) (key : Nat) (context : Item) :
    Turn producer ⟨.setContext key context, ()⟩ (producer.setContext context)
  | nothing {producer next : StaticItems} (key : Nat) (timeout : Duration)
      (polled : producer.poll = (next, some none)) :
    Turn producer ⟨.poll key timeout, .nothing⟩ next
  | batch {producer next : StaticItems} {items : List Item} (key : Nat) (timeout : Duration)
      (polled : producer.poll = (next, some (some items))) :
    Turn producer ⟨.poll key timeout, .batch items⟩ next
  | aside {producer : StaticItems} {call : Call} (reply : call.Reply)
      (apart : call.matters = false) : Turn producer ⟨call, reply⟩ producer

variable {producer : StaticItems}

/-- A poll takes at least one item, if there is any. -/
theorem one_le_stride (producer : StaticItems) : 1 ≤ producer.stride.toNat := by
  -- A size of 0 is taken for 1.
  show 1 ≤ (if producer.batchSize ≤ 1 then 1 else producer.batchSize).toNat
  split
  · exact Nat.le_refl 1
  · rename_i larger
    have above : ¬ producer.batchSize.toNat ≤ 1 :=
      fun small => larger (UInt64.le_iff_toNat_le.mpr small)
    omega

/-- A position that was reported is taken up again. -/
theorem setContext_context (short : producer.items.length < twoTo 63) :
    producer.setContext producer.context =
      { producer with cursor := .ofNat (min producer.cursor.toNat producer.items.length) } := by
  -- Whatever was reported fits into a word, since the list is short.
  have below : min producer.cursor.toNat producer.items.length < twoTo 64 := by
    have half : twoTo 63 < twoTo 64 := by decide
    omega
  rw [setContext, context, Item.word?_nat below]

/-- A poll of a list that is not exhausted yields the next items. The end of the batch is a 64-bit
count, since the steps before it were as long and did not lead beyond the list. -/
theorem poll_eq (short : producer.items.length < twoTo 63) (left : producer.isExhausted = false)
    (aligned : producer.cursor.toNat = 0 ∨ producer.stride.toNat ≤ producer.cursor.toNat) :
    ∃ first rest,
      producer.poll = ({ producer with cursor := producer.cursor + producer.stride },
        some (some (first :: rest))) ∧
      first :: rest = (producer.items.drop producer.cursor.toNat).take producer.stride.toNat ∧
      (producer.cursor + producer.stride).toNat =
        producer.cursor.toNat + producer.stride.toNat := by
  have within : producer.cursor.toNat < producer.items.length := by
    simp only [isExhausted, remaining, beq_eq_false_iff_ne] at left
    omega
  have positive := producer.one_le_stride
  have bounded := producer.stride.toNat_lt
  have double : twoTo 64 = 2 * twoTo 63 := by decide
  -- A step is no longer than what is left of a 64-bit count behind a list of half that length.
  have word : twoTo 64 = 2 ^ 64 := rfl
  have room : producer.cursor.toNat + producer.stride.toNat < twoTo 64 := by omega
  have filled : (producer.items.drop producer.cursor.toNat).take producer.stride.toNat ≠ [] := by
    intro nothing
    have empty := congrArg List.length nothing
    simp only [List.length_take, List.length_drop, List.length_nil] at empty
    omega
  obtain ⟨first, rest, batch⟩ := List.exists_cons_of_ne_nil filled
  refine ⟨first, rest, ?_, batch.symm, ?_⟩
  · simp only [poll, Nat.min_eq_left (Nat.le_of_lt within), if_neg (Nat.not_le.mpr room), batch]
  · rw [UInt64.toNat_add, ← word, Nat.mod_eq_of_lt room]

end StaticItems

/-- A list that is being polled, and all that it has yielded so far. -/
structure Reading where
  producer : StaticItems
  taken : List Item

namespace Reading

/-- What passes between a worker and the list, and what the list yields with it. -/
def Turn (reading : Reading) (exchange : Exchange) (later : Reading) : Prop :=
  reading.producer.Turn exchange later.producer ∧
    later.taken = reading.taken ++ exchange.batch?.getD []

/-- What was taken from the list so far are its first items, up to the position. -/
structure Sound (items : List Item) (reading : Reading) : Prop where
  whole : reading.producer.items = items
  taken : reading.taken = items.take reading.producer.cursor.toNat
  /-- Unless it is beyond the end, the position is at the beginning or a step after it. -/
  aligned : reading.producer.cursor.toNat < items.length →
    reading.producer.cursor.toNat = 0 ∨
      reading.producer.stride.toNat ≤ reading.producer.cursor.toNat

variable {items : List Item} {live : Prop} {reading : Reading} {ρ : Type}
  {ends : ρ → Reading → Prop}

variable {worker : Worker}

/-- Polled before its end, the list yields the next of its items. -/
theorem Sound.poll (sound : reading.Sound items) (short : items.length < twoTo 63)
    (left : reading.producer.isExhausted = false) :
    ∃ first rest, ∃ later : Reading,
      reading.producer.poll = (later.producer, some (some (first :: rest))) ∧
      later.taken = reading.taken ++ (first :: rest) ∧ later.Sound items ∧
      later.producer.remaining < reading.producer.remaining := by
  obtain ⟨whole, taken, aligned⟩ := sound
  have within : reading.producer.cursor.toNat < items.length := by
    rw [StaticItems.isExhausted, beq_eq_false_iff_ne, StaticItems.remaining, whole] at left
    omega
  obtain ⟨first, rest, polled, batch, further⟩ :=
    StaticItems.poll_eq (whole ▸ short) left (aligned within)
  have positive := reading.producer.one_le_stride
  refine ⟨first, rest, ⟨_, reading.taken ++ (first :: rest)⟩, polled, rfl, ⟨whole, ?_, ?_⟩, ?_⟩
  · -- The items up to the new position are those up to the old one and the batch.
    rw [batch, taken, whole, further, List.take_add]
  · -- A step was made now, so the new position is at least a step from the beginning.
    intro _
    right
    rw [further]
    exact Nat.le_add_left ..
  · simp only [StaticItems.remaining, whole, further]
    omega

/-- A position that was reported and is taken up again changes nothing. -/
theorem Sound.setContext (sound : reading.Sound items) (short : items.length < twoTo 63) :
    Sound items { reading with
      producer := reading.producer.setContext reading.producer.context } := by
  obtain ⟨whole, taken, aligned⟩ := sound
  have position : (UInt64.ofNat (min reading.producer.cursor.toNat items.length)).toNat =
      min reading.producer.cursor.toNat items.length := by
    refine UInt64.toNat_ofNat_of_lt' ?_
    exact Nat.lt_of_le_of_lt (Nat.min_le_left ..) reading.producer.cursor.toNat_lt
  rw [StaticItems.setContext_context (whole ▸ short)]
  refine ⟨whole, ?_, fun within => ?_⟩
  · -- Beyond its end a list has no further items.
    rw [taken, whole, position]
    exact (List.take_eq_take_iff.mpr (by omega))
  · -- Before the end the position is the same, and so it is still aligned.
    rw [whole, position] at within ⊢
    have same : min reading.producer.cursor.toNat items.length = reading.producer.cursor.toNat := by
      omega
    rw [same]
    exact aligned (by omega)

end Reading

namespace StaticItems

end StaticItems

namespace Worker

/-- Surroundings that show the first batch of two to a producer that cannot take it. -/
def reluctant (producer : StaticItems) (call : Call) : Option (call.Reply × StaticItems) :=
  match producer.answer? call with
  | some reply => some (reply, producer)
  | none =>
    match call with
    | .setContext _ context => some ((), producer.setContext context)
    | .poll .. =>
      match producer.poll with
      | (next, some (some items)) => some (.batch items, next)
      | (next, some none) => some (.nothing, next)
      | (_, none) => none
    | .onTerminal .. =>
      if producer.cursor = 2 then some (.error (.dataFormat "no"), producer)
      else some (.ok (), producer)
    | call => some (Plan.uneventful call, producer)

end Worker

end BatchFlow
