import BatchFlow.Proofs.Handoff.Exhaustion
import BatchFlow.Proofs.Handoff.Shutdown
import BatchFlow.Proofs.Plan.Environment

/-! A queue that one worker alone polls, while any number of others push into it, close, suspend and
resume it. When the worker finds it exhausted, there is nothing left to come: whatever was ever
accepted was routed, or a suspension has taken it away. -/

namespace BatchFlow

open Plan (Exchange Passes)

/-- Whether a question is about what is queued. -/
def Call.probes : Call → Bool
  | .poll .. | .isExhausted _ => true
  | _ => false

/-- Nothing but the end of a poll yields a batch. -/
theorem yields_of_not_probes {exchange : Exchange} (apart : exchange.call.probes = false) :
    yields [exchange] = [] := by
  obtain ⟨call, reply⟩ := exchange
  -- Only polls are answered with batches.
  have unyielding : Exchange.batch? ⟨call, reply⟩ = none := by
    cases call <;> first | rfl | cases apart
  simp [yields, unyielding]

namespace Handoff

open Relation (ReflTransGen)

/-- What comes of a poll, and the items that it has taken. One that waits can be given up, because
its time is over or the run was cancelled. -/
inductive Poll.Ends (poll : Poll) : Polled → List Pending → Prop where
  | filled {batch : List Pending} (ended : poll.poller = .finished batch) (filled : batch ≠ []) :
    Ends poll (.batch (batch.map (·.item))) batch
  | empty (ended : poll.poller = .finished []) : Ends poll .nothing []
  | left {polled : Polled} (gone : poll.present = false) (free : poll.poller.MayLeave)
      (given : polled = .nothing ∨ polled = .cancelled) : Ends poll polled []

/-- A poll that has ended has in hand what it has taken. -/
theorem Poll.Ends.batch_eq {poll : Poll} {polled : Polled} {batch : List Pending}
    (ends : poll.Ends polled batch) : poll.poller.batch = batch := by
  -- A call that may leave has taken nothing.
  cases ends with
  | filled ended filled => rw [ended]; rfl
  | empty ended => rw [ended]; rfl
  | left gone free given => exact free.batch_eq_nil

/-- What was taken is what is yielded, as one batch if there is anything. -/
theorem Poll.Ends.yields_eq {poll : Poll} {polled : Polled} {batch : List Pending} {key : Nat}
    {timeout : Duration} (ends : poll.Ends polled batch) :
    ∃ more : List (List Pending), more.flatten = batch ∧
      yields [⟨.poll key timeout, polled⟩] = more.map (·.map (·.item)) := by
  -- A batch is what a poll yields, and an empty one is what it does not yield.
  cases ends with
  | @filled batch ended filled =>
    obtain ⟨first, rest, rfl⟩ := List.exists_cons_of_ne_nil filled
    exact ⟨[first :: rest], by simp, rfl⟩
  | empty ended => exact ⟨[], rfl, rfl⟩
  | left gone free given => rcases given with rfl | rfl <;> exact ⟨[], rfl, rfl⟩

namespace Traffic

variable {traffic later last : Traffic} {key most : Nat} {exchange : Exchange}
  {trace : List Exchange}

/-- Somebody acts who does not poll. -/
def Aside (traffic later : Traffic) : Prop :=
  traffic.Step later ∧ later.polls = traffic.polls

/-- Anybody acts, of those who poll only the one who came last. -/
def Polling (before : List Poll) (traffic later : Traffic) : Prop :=
  traffic.Step later ∧ ∃ poll, later.polls = before ++ [poll]

/-- What an exchange of the one task that polls a queue comes to at the queue, where others act
meanwhile. To ask whether the queue is exhausted takes two looks at it. A poll is a call of its own,
which may also be cancelled before it begins. -/
inductive Attends (key most : Nat) : Traffic → Exchange → Traffic → Prop where
  | inquiry {traffic later : Traffic} {found : Bool}
      (inquired : traffic.Inquired Aside found later) :
    Attends key most traffic ⟨.isExhausted key, found⟩ later
  | poll {traffic later : Traffic} {timeout : Duration} {poll : Poll} {polled : Polled}
      {batch : List Pending}
      (going : ReflTransGen (Polling traffic.polls)
        { traffic with polls := traffic.polls ++ [⟨most, .starting, true⟩] } later)
      (here : later.polls = traffic.polls ++ [poll]) (ends : poll.Ends polled batch) :
    Attends key most traffic ⟨.poll key timeout, polled⟩ later
  | spared {traffic later : Traffic} {timeout : Duration}
      (acted : ReflTransGen Aside traffic later) :
    Attends key most traffic ⟨.poll key timeout, .cancelled⟩ later
  | aside {traffic later : Traffic} {exchange : Exchange} (apart : exchange.call.probes = false)
      (acted : ReflTransGen Aside traffic later) : Attends key most traffic exchange later

/-- What is done aside is made up of steps that anybody may take. -/
theorem steps_of_aside (acted : ReflTransGen Aside traffic later) :
    ReflTransGen Step traffic later :=
  ReflTransGen.mono (fun _ _ aside => aside.1) _ _ acted

/-- Who does not poll leaves those who do where they were. -/
theorem polls_of_aside (acted : ReflTransGen Aside traffic later) :
    later.polls = traffic.polls := by
  induction acted with
  | refl => rfl
  | tail _ aside ih => exact aside.2.trans ih

/-- Whatever happens is made up of steps that anybody may take. -/
theorem Attends.steps (attends : Attends key most traffic exchange later) :
    ReflTransGen Step traffic later := by
  -- Only a poll begins a call of its own; all else is done by others.
  cases attends with
  | inquiry inquired => exact steps_of_aside inquired.steps
  | poll going here ends =>
    have requested : traffic.Step
        { traffic with polls := traffic.polls ++ [⟨most, .starting, true⟩] } :=
      .move (.request traffic most)
    exact .head requested (ReflTransGen.mono (fun _ _ polling => polling.1) _ _ going)
  | spared acted => exact steps_of_aside acted
  | aside apart acted => exact steps_of_aside acted

/-- What the calls that polled have taken in all is what they had before and what is yielded. -/
theorem Attends.yields_eq (attends : Attends key most traffic exchange later) :
    ∃ more : List (List Pending), later.polls.flatMap (·.poller.batch) =
        traffic.polls.flatMap (·.poller.batch) ++ more.flatten ∧
      yields [exchange] = more.map (·.map (·.item)) := by
  -- Whoever does not poll takes nothing.
  have unyielding : ReflTransGen Aside traffic later → yields [exchange] = [] →
      ∃ more : List (List Pending), later.polls.flatMap (·.poller.batch) =
          traffic.polls.flatMap (·.poller.batch) ++ more.flatten ∧
        yields [exchange] = more.map (·.map (·.item)) := by
    intro acted nothing
    exact ⟨[], by rw [polls_of_aside acted]; simp, nothing⟩
  cases attends with
  | inquiry inquired => exact unyielding inquired.steps rfl
  | poll going here ends =>
    obtain ⟨more, whole, same⟩ := ends.yields_eq
    refine ⟨more, ?_, same⟩
    rw [here, List.flatMap_append, whole]
    simp [ends.batch_eq]
  | spared acted => exact unyielding acted rfl
  | aside apart acted => exact unyielding acted (yields_of_not_probes apart)

/-- What has become of an item that a queue accepted: either it was in one of the batches that were
yielded, once, and its pusher is not told that the queue is closed; or it was in none of them,
because a suspension has taken it away, and its pusher is told that the queue is closed, at the
latest as soon as the suspension goes on. -/
def Settled (traffic : Traffic) (yielded : List (List Pending)) (pending : Pending) : Prop :=
  (RoutedOnce yielded pending ∧
    traffic.queue.answer? pending.ack ≠ some (.error .closed)) ∨
  (pending ∉ yielded.flatten ∧ (traffic.Refused pending ∨ pending.ack ∈ traffic.refusals))

/-- At a queue that is spent, everything that was accepted is settled. -/
theorem Spent.settled (spent : traffic.Spent) (sound : traffic.Sound)
    {yielded : List (List Pending)}
    (taken : traffic.polls.flatMap (·.poller.batch) = yielded.flatten)
    {pending : Pending} (accepted : pending ∈ traffic.accepted) :
    traffic.Settled yielded pending := by
  -- What was handed out is with the calls that polled, and they have yielded it.
  have handed : traffic.handed.Perm yielded.flatten := taken ▸ sound.batches
  rcases sound.accounted spent.bare accepted with ⟨routed, once, open_⟩ | ⟨unrouted, refused⟩
  · exact .inl ⟨⟨handed.mem_iff.mp routed, (handed.map (·.ack)).count_eq _ ▸ once⟩, open_⟩
  · exact .inr ⟨fun routed => unrouted (handed.mem_iff.mpr routed), refused⟩

end Traffic

open Traffic (Attends)

/-- One thing that others do at a queue. -/
inductive Deed where
  | arrive (item : Item)
  /-- Whoever came last to push goes on. -/
  | push
  | order (chores : List Chore)
    (known : chores = Chore.closing ∨ chores = Chore.suspending ∨ chores = Chore.resuming)
  /-- Whoever was the last to close, suspend or resume the queue goes on. -/
  | chore

end Handoff

end BatchFlow
