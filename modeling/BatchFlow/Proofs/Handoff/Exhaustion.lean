import BatchFlow.Producer.Queue
import BatchFlow.Proofs.Handoff.Safety
import Mathlib.Logic.Relation

/-! Whoever asks whether a queue is exhausted looks at it twice, and anybody may act in between. A
queue that was closed at the first look stays closed, so that one which is empty at the second look
has nothing more to give, and gets nothing more. -/

namespace BatchFlow.Handoff

open Relation (ReflTransGen)

/-- How far somebody has come who asks whether a queue is exhausted. -/
inductive Inquiry where
  | asking
  /-- The queue was seen to be closed, and whether anything is queued is looked at next. -/
  | sawClosed
  | answered (exhausted : Bool)
deriving DecidableEq

/-- One look at the queue. A queue that is open is not looked at again. -/
def Inquiry.look (queue : Queue) : Inquiry → Inquiry
  | asking => if queue.closed then sawClosed else answered false
  | sawClosed => answered queue.items.isEmpty
  | answered exhausted => answered exhausted

/-- A pusher closes nothing and opens nothing. -/
theorem Pusher.Steps.closed_eq {queue later : Queue} {pusher next : Pusher}
    (steps : pusher.Steps queue later next) : later.closed = queue.closed := by
  cases steps <;> rfl

/-- Nor does a poller. -/
theorem Poller.Steps.closed_eq {most : Nat} {queue later : Queue} {poller next : Poller}
    (steps : poller.Steps most queue later next) : later.closed = queue.closed := by
  cases steps <;> rfl

/-- Settling does not touch the mark against further items. -/
theorem Queue.settle_closed (queue : Queue) (answer : Answer) (ack : Nat) :
    (queue.settle answer ack).closed = queue.closed := by
  unfold settle
  split <;> rfl

/-- A pusher has queued nothing at a queue that refuses. -/
theorem Pusher.Steps.refused_of_closed {queue later : Queue} {pusher next : Pusher}
    (steps : pusher.Steps queue later next) (closed : queue.closed = true) :
    later.items = queue.items ∧ ∀ item, next.queued item = [] := by
  -- Only a push that is accepted queues its item, and a closed queue accepts none.
  cases steps with
  | queued item ticket accepting room => simp [Queue.isRefusing, closed] at accepting
  | _ => exact ⟨rfl, fun _ => rfl⟩

/-- A poller has taken nothing from a queue that is empty. -/
theorem Poller.Steps.bare {most : Nat} {queue later : Queue} {poller next : Poller}
    (steps : poller.Steps most queue later next) (bare : queue.items = []) :
    later.items = [] ∧ next.taken = [] ∧ next.batch = poller.batch := by
  -- Only a call that finds items takes any.
  cases steps with
  | took ticket filled => exact absurd bare filled
  | _ => exact ⟨bare, rfl, rfl⟩

namespace Traffic

variable {traffic middle later : Traffic}

/-- A queue that was closed stays closed, whatever happens next. -/
theorem Step.stays_closed (step : traffic.Step later) (closed : traffic.queue.closed = true) :
    later.queue.closed = true := by
  -- No step sets the mark back, so that each case shows the mark it had or the mark that is set.
  cases step with
  | answer pending answer holds open_ => exact (Queue.settle_closed _ _ _).trans closed
  | move moved =>
    cases moved with
    | arrive | request | order => exact closed
    | push before after push queue pusher here present stepped =>
      exact (Pusher.step?_steps stepped).closed_eq.trans closed
    | poll before after poll queue poller here present stepped =>
      exact (Poller.step?_steps stepped).closed_eq.trans closed
    | leavePush before after push here present free => cases push.pusher <;> exact closed
    | leavePoll before after poll here present free => cases poll.poller <;> exact closed
    | chore before after chore rest here =>
      cases chore with
      | markClosed => rfl
      | refuse ack => exact (Queue.settle_closed _ _ _).trans closed
      | _ => exact closed

/-- A queue with nothing in it that accepts nothing. -/
structure Spent (traffic : Traffic) : Prop where
  closed : traffic.queue.closed = true
  bare : traffic.queue.items = []

/-- Nothing has been queued and nothing has left. Every call is entered under the number that it had
and has the items in hand that it had, and calls that came in between have none. -/
structure Idles (traffic later : Traffic) : Prop where
  accepted : later.accepted = traffic.accepted
  departed : later.departed = traffic.departed
  entries : ∃ newcomers, later.pushes.map (·.entry) =
    traffic.pushes.map (·.entry) ++ List.replicate newcomers none
  batches : ∃ newcomers, later.polls.map (·.poller.batch) =
    traffic.polls.map (·.poller.batch) ++ List.replicate newcomers []

/-- The calls are as they were. -/
theorem Idles.of_eq (accepted : later.accepted = traffic.accepted)
    (departed : later.departed = traffic.departed)
    (entries : later.pushes.map (·.entry) = traffic.pushes.map (·.entry))
    (batches : later.polls.map (·.poller.batch) = traffic.polls.map (·.poller.batch)) :
    traffic.Idles later :=
  ⟨accepted, departed, ⟨0, by simpa using entries⟩, ⟨0, by simpa using batches⟩⟩

/-- Where nothing has happened, nothing was queued and nothing has left. -/
theorem Idles.refl (traffic : Traffic) : traffic.Idles traffic := .of_eq rfl rfl rfl rfl

/-- Two idle stretches make an idle one, with the newcomers of both. -/
theorem Idles.trans (first : traffic.Idles middle) (second : middle.Idles later) :
    traffic.Idles later := by
  -- The newcomers of the second stretch stand behind those of the first one.
  obtain ⟨pushing, entries⟩ := first.entries
  obtain ⟨more, further⟩ := second.entries
  obtain ⟨polling, batches⟩ := first.batches
  obtain ⟨others, beyond⟩ := second.batches
  refine ⟨second.accepted.trans first.accepted, second.departed.trans first.departed,
    ⟨pushing + more, ?_⟩, ⟨polling + others, ?_⟩⟩
  · rw [further, entries, List.append_assoc, List.replicate_append_replicate]
  · rw [beyond, batches, List.append_assoc, List.replicate_append_replicate]

/-- Whatever happens at a queue that is spent, it stays so. -/
theorem Spent.step (spent : traffic.Spent) (step : traffic.Step later) :
    later.Spent ∧ traffic.Idles later := by
  obtain ⟨closed, bare⟩ := spent
  have stays := step.stays_closed closed
  -- The mark stays set, and what is queued and who holds what are gone through step by step.
  suffices both : later.queue.items = [] ∧ traffic.Idles later from ⟨⟨stays, both.1⟩, both.2⟩
  cases step with
  | answer pending answer holds open_ =>
    exact ⟨(Queue.settle_stock _ _ _).2.1.trans bare, .of_eq rfl rfl rfl rfl⟩
  | move moved =>
    cases moved with
    | arrive item => exact ⟨bare, rfl, rfl, ⟨1, by simp⟩, ⟨0, by simp⟩⟩
    | request most => exact ⟨bare, rfl, rfl, ⟨0, by simp⟩, ⟨1, by simp [Poller.batch]⟩⟩
    | order => exact ⟨bare, .of_eq rfl rfl rfl rfl⟩
    | push before after push queue pusher here present stepped =>
      -- A queue that is closed refuses whoever tries to push.
      obtain ⟨same, unqueued⟩ := (Pusher.step?_steps stepped).refused_of_closed closed
      refine ⟨same.trans bare, .of_eq ?_ rfl ?_ rfl⟩
      · simp [unqueued]
      · simp [here, Push.advance, unqueued]
    | leavePush before after push here present free =>
      refine ⟨?_, .of_eq rfl rfl (by simp [here]) rfl⟩
      cases push.pusher <;> exact bare
    | poll before after poll queue poller here present stepped =>
      -- Whoever polls finds nothing.
      obtain ⟨still, untaken, batch⟩ := (Poller.step?_steps stepped).bare bare
      refine ⟨still, .of_eq rfl ?_ rfl ?_⟩
      · simp [untaken]
      · simp [here, batch]
    | leavePoll before after poll here present free =>
      refine ⟨?_, .of_eq rfl rfl rfl (by simp [here])⟩
      cases poll.poller <;> exact bare
    | chore before after chore rest here =>
      cases chore with
      | refuse ack =>
        exact ⟨(Queue.settle_stock _ _ _).2.1.trans bare,
          .of_eq rfl (List.append_nil _) rfl rfl⟩
      | markSuspended =>
        -- A suspension finds nothing to take away either.
        exact ⟨rfl, .of_eq rfl (by simp [Chore.perform, Queue.markSuspended, bare]) rfl rfl⟩
      | _ => exact ⟨bare, .of_eq rfl (List.append_nil _) rfl rfl⟩

/-- It stays so however long everybody goes on. -/
theorem Spent.steps (spent : traffic.Spent) (steps : ReflTransGen Step traffic later) :
    later.Spent ∧ traffic.Idles later := by
  -- By induction on the steps, since a queue that is spent is found so by the next one, too.
  induction steps with
  | refl => exact ⟨spent, .refl traffic⟩
  | tail _ step ih =>
    obtain ⟨before, idles⟩ := ih
    obtain ⟨still, further⟩ := before.step step
    exact ⟨still, idles.trans further⟩

/-- Everything stays sound however long everybody goes on. -/
theorem Sound.steps (sound : traffic.Sound) (steps : ReflTransGen Step traffic later) :
    later.Sound := by
  induction steps with
  | refl => exact sound
  | tail _ step ih => exact ih.step step

end Traffic

/-- A queue, and somebody who asks whether it is exhausted. -/
structure Inquest where
  traffic : Traffic
  inquiry : Inquiry

namespace Inquest

/-- Somebody acts at the queue, or whoever asks looks at it. -/
inductive Step (others : Traffic → Traffic → Prop) : Inquest → Inquest → Prop where
  | others {traffic later : Traffic} {inquiry : Inquiry} (acted : others traffic later) :
    Step others ⟨traffic, inquiry⟩ ⟨later, inquiry⟩
  | look {traffic : Traffic} {inquiry : Inquiry} :
    Step others ⟨traffic, inquiry⟩ ⟨traffic, inquiry.look traffic.queue⟩

/-- What whoever asks can rely on by now. -/
def Reliable (inquest : Inquest) : Prop :=
  match inquest.inquiry with
  | .asking | .answered false => True
  | .sawClosed => inquest.traffic.queue.closed = true
  | .answered true => inquest.traffic.Spent

/-- What was seen first still holds when the queue is looked at for the second time. -/
theorem Reliable.step {inquest later : Inquest} (reliable : inquest.Reliable)
    (step : Step Traffic.Step inquest later) : later.Reliable := by
  cases step with
  -- Somebody acts: a closed queue stays closed, and a spent one stays spent.
  | @others traffic later inquiry acted =>
    match inquiry with
    | .asking | .answered false => trivial
    | .sawClosed => exact acted.stays_closed reliable
    | .answered true => exact (Traffic.Spent.step reliable acted).1
  | @look traffic inquiry =>
    -- Somebody looks, and what is found out now is what the next look relies on.
    match inquiry with
    | .asking =>
      cases closed : traffic.queue.closed with
      | false => simp [Inquiry.look, Reliable, closed]
      | true => simp [Inquiry.look, Reliable, closed]
    | .sawClosed =>
      cases empty : traffic.queue.items.isEmpty with
      | false => simp [Inquiry.look, Reliable, empty]
      | true =>
        have spent : traffic.Spent := ⟨reliable, List.isEmpty_iff.mp empty⟩
        simpa [Inquiry.look, Reliable, empty] using spent
    | .answered false => trivial
    | .answered true => exact reliable

/-- At every moment, whoever asks can rely on what was found out. -/
theorem reliable_of_steps {traffic : Traffic} {later : Inquest}
    (steps : ReflTransGen (Step Traffic.Step) ⟨traffic, .asking⟩ later) : later.Reliable := by
  induction steps with
  | refl => trivial
  | tail _ step ih => exact ih.step step

/-- While somebody asks, the others go on as ever. -/
theorem others_of_steps {others : Traffic → Traffic → Prop} {inquest later : Inquest}
    (steps : ReflTransGen (Step others) inquest later) :
    ReflTransGen others inquest.traffic later.traffic := by
  -- The looks leave the queue as it is, so only the others move it.
  induction steps with
  | refl => exact .refl
  | tail _ step ih =>
    cases step with
    | others acted => exact ih.tail acted
    | look => exact ih

end Inquest

/-- Somebody asks whether a queue is exhausted, while others act at it, and is answered. -/
def Traffic.Inquired (others : Traffic → Traffic → Prop) (traffic : Traffic) (exhausted : Bool)
    (later : Traffic) : Prop :=
  ReflTransGen (Inquest.Step others) ⟨traffic, .asking⟩ ⟨later, .answered exhausted⟩

namespace Traffic

variable {traffic answered later : Traffic} {others : Traffic → Traffic → Prop} {found : Bool}

/-- What others do while somebody asks. -/
theorem Inquired.steps (inquired : traffic.Inquired others found later) :
    ReflTransGen others traffic later :=
  Inquest.others_of_steps inquired

/-- Of others who do less than anybody could, the same is found out. -/
theorem Inquired.weaken {less : Traffic → Traffic → Prop}
    (inquired : traffic.Inquired less found later)
    (among : ∀ traffic later, less traffic later → others traffic later) :
    traffic.Inquired others found later := by
  -- Step by step, what the others do is among what anybody may do.
  refine ReflTransGen.mono (fun inquest next step => ?_) _ _ inquired
  cases step with
  | others acted => exact .others (among _ _ acted)
  | look => exact .look

/-- A queue that was found to be exhausted is spent. -/
theorem Inquired.spent (inquired : traffic.Inquired Step true later) : later.Spent :=
  Inquest.reliable_of_steps inquired

/-- How a queue is found from the moment on at which somebody was answered that it is exhausted. -/
structure Exhausted (answered later : Traffic) : Prop where
  empty : later.queue.items = []
  /-- Nothing more has been accepted, nor handed out or taken away. -/
  idles : answered.Idles later
  /-- Whoever has not had an item accepted is told that the queue is closed, if anything, and hears
  that at once if it looks for room. -/
  refuses : ∀ push ∈ later.pushes, push.entry = none →
    (∀ answer, push.pusher = .finished answer → answer = .error .closed) ∧
    ((∃ item, push.pusher = .arriving item) ∨ (∃ item ticket, push.pusher = .trying item ticket) →
      (push.pusher.run later.queue 2).2 = .finished (.error .closed))

/-- What holds of a queue that is spent once everybody has gone on for a while. -/
theorem Spent.exhausted (spent : answered.Spent) (sound : answered.Sound)
    (steps : ReflTransGen Step answered later) : answered.Exhausted later := by
  obtain ⟨still, idles⟩ := spent.steps steps
  refine ⟨still.bare, idles, fun push member outside => ⟨fun answer told => ?_, ?_⟩⟩
  · -- Whoever is told anything without a number was refused.
    have stands := ((sound.steps steps).pushes push member).stands
    rw [told, outside] at stands
    rcases stands with ⟨_, closed⟩ | ⟨_, none, _⟩
    · exact closed
    · cases none
  · -- Whoever looks for room is refused at once, with a ticket or without.
    rintro (⟨item, at_⟩ | ⟨item, ticket, at_⟩)
    · simp [at_, Pusher.run, Pusher.step?, Queue.awaitRoom, Queue.tryPush, Queue.isRefusing,
        still.closed]
    · simp [at_, Pusher.run, Pusher.step?, Queue.tryPush, Queue.isRefusing, still.closed]

end Traffic

end BatchFlow.Handoff
