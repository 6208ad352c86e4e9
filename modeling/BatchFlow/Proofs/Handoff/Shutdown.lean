import BatchFlow.Proofs.Handoff.Scheduling

/-! A run that returns a report leaves nobody behind at the queues that fed it. -/

namespace BatchFlow

open Plan (Exchange)

namespace Handoff

/-- The item was in one of the batches that were yielded, once. -/
def RoutedOnce (yielded : List (List Pending)) (pending : Pending) : Prop :=
  pending ∈ yielded.flatten ∧ (yielded.flatten.map (·.ack)).count pending.ack = 1

/-- The pusher of an item was answered once, that the queue is closed, and is told so as soon as it
goes on, if it has not been yet. -/
structure Traffic.Refused (traffic : Traffic) (pending : Pending) : Prop where
  answered : traffic.AnsweredOnce pending (.error .closed)
  told : ∀ push ∈ traffic.pushes, push.entry = some pending.ack →
    (push.pusher.run traffic.queue 2).2 = .finished (.error .closed)

/-- What can happen as long as the queue is not connected once more, in this run or later ones. -/
inductive FedAdaptor.Onward (adaptor : Adaptor) (inlet : Inlet) : FedAdaptor → FedAdaptor →
    Prop where
  | step {fed later : FedAdaptor} (step : Step adaptor inlet fed later)
      (apart : ∀ reply, later.record ≠
        fed.record ++ [⟨.connectProducer inlet.source.key, reply⟩]) :
    Onward adaptor inlet fed later
  | again {fed : FedAdaptor} {result : Except Refusal Report}
      (returned : fed.tasks.supervisor = .done result) :
    Onward adaptor inlet fed { fed with tasks := .opening adaptor fed.tasks.handles }

namespace Traffic

variable {traffic : Traffic}

/-- Closings answer nobody. -/
theorem Calm.refusals_eq_nil (calm : traffic.Calm) : traffic.refusals = [] := by
  refine List.flatMap_eq_nil_iff.mpr fun order listed => List.filterMap_eq_nil_iff.mpr ?_
  intro chore due
  have closes := calm order listed chore due
  -- An order to close comes to three things, none of which is a refusal.
  simp only [Chore.closing, List.mem_cons, List.not_mem_nil, or_false] at closes
  rcases closes with rfl | rfl | rfl <;> rfl

/-- Whatever was taken away has been refused, or a suspension under way is about to refuse it. -/
theorem Sound.closed_of_withdrawn (sound : traffic.Sound) {pending : Pending}
    (left : .withdrawn pending ∈ traffic.departed) :
    traffic.queue.answer? pending.ack = some (.error .closed) ∨
      pending.ack ∈ traffic.refusals := by
  refine (sound.refused left).imp_left fun answered => ?_
  obtain ⟨answer, known⟩ := Option.isSome_iff_exists.mp answered
  -- An item that was taken away is told nothing else.
  obtain ⟨departure, gone, same, allowed⟩ := sound.custody.answered known
  cases sound.custody.departure_eq gone left same
  cases allowed
  exact known

/-- An item whose acknowledgement was given is refused if that is the answer. -/
theorem Sound.refused_of_answer (sound : traffic.Sound) {pending : Pending}
    (accepted : pending ∈ traffic.accepted)
    (known : traffic.queue.answer? pending.ack = some (.error .closed)) :
    traffic.Refused pending where
  answered := sound.answeredOnce accepted known
  told push member entry := by
    have stands := (sound.pushes push member).stands
    rw [entry] at stands
    exact told_of_answered stands known

/-- Once the queue is empty, every accepted item was handed out, or refused at the latest as soon as
the suspension that took it away goes on, and never both. -/
theorem Sound.accounted (sound : traffic.Sound) (bare : traffic.queue.items = [])
    {pending : Pending} (accepted : pending ∈ traffic.accepted) :
    (pending ∈ traffic.handed ∧ (traffic.handed.map (·.ack)).count pending.ack = 1 ∧
      traffic.queue.answer? pending.ack ≠ some (.error .closed)) ∨
    (pending ∉ traffic.handed ∧
      (traffic.Refused pending ∨ pending.ack ∈ traffic.refusals)) := by
  -- Whatever was accepted has left, one way or the other.
  have left := accepted
  rw [sound.custody.conserved, bare, List.append_nil] at left
  obtain ⟨departure, gone, rfl⟩ := List.mem_map.mp left
  cases departure with
  | handed pending =>
    have handed := Sound.mem_handed_of_departed gone
    refine .inl ⟨handed, ?_, fun closed => ?_⟩
    · exact List.count_eq_one_of_mem sound.handed_nodup (List.mem_map.mpr ⟨_, handed, rfl⟩)
    · exact sound.not_handed_of_closed closed pending handed rfl
  | withdrawn pending =>
    refine .inr ⟨fun handed => ?_, ?_⟩
    · -- No item leaves in both ways.
      have both := sound.custody.departure_eq gone (Sound.mem_departed_of_handed handed) rfl
      cases both
    · exact (sound.closed_of_withdrawn gone).imp_left (sound.refused_of_answer accepted)

/-- With no suspension under way, every accepted item was handed out or refused, and never both. -/
theorem Sound.settled (sound : traffic.Sound) (calm : traffic.Calm)
    (bare : traffic.queue.items = []) {pending : Pending}
    (accepted : pending ∈ traffic.accepted) :
    (pending ∈ traffic.handed ∧ (traffic.handed.map (·.ack)).count pending.ack = 1 ∧
      traffic.queue.answer? pending.ack ≠ some (.error .closed)) ∨
    (pending ∉ traffic.handed ∧ traffic.Refused pending) := by
  refine (sound.accounted bare accepted).imp_right fun ⟨unhanded, refused⟩ => ⟨unhanded, ?_⟩
  exact refused.resolve_right (by simp [calm.refusals_eq_nil])

end Traffic

variable {adaptor : Adaptor} {inlet : Inlet} {fed : FedAdaptor}

/-- A queue that is shut stays so until it is connected. -/
theorem QueueHistory.stays_shut {later : FedAdaptor} (history : QueueHistory adaptor inlet fed)
    (distinct : (adaptor.sources.map (·.key)).Nodup) (member : inlet.source ∈ adaptor.sources)
    (shut : fed.inbox.traffic.Shut) (onward : fed.Onward adaptor inlet later) :
    later.inbox.traffic.Shut ∧
      later.inbox.traffic.accepted = fed.inbox.traffic.accepted := by
  obtain ⟨roll, yielded, sound⟩ := history.sound distinct member
  cases onward with
  | again returned => exact ⟨shut, rfl⟩
  -- Only the exchange with which the worker connects the queue would open it, and that is excluded.
  | step step apart =>
    cases step with
    -- Nobody from outside opens a queue, and who asks for a batch finds it shut.
    | outside outside => exact (outside.kept sound.inbox.composed).shut shut
    | request asks idle => exact ⟨shut.elsewhere rfl (.of_eq rfl rfl) rfl rfl, rfl⟩
    | @poll before poll queue poller polling here stepped =>
      -- A step of the poll cannot take anything away from a queue that is shut.
      have steps := Poller.step?_steps stepped
      obtain ⟨suspended, bare⟩ := shut.toSuspended.poll steps
      exact ⟨⟨⟨suspended, bare⟩, shut.called.elsewhere rfl steps.spares⟩, rfl⟩
    | @work call next reply handles inbox works changes treats =>
      refine treats.shut sound.inbox shut ?_
      rintro rfl
      exact apart reply rfl
    | aside step stays happened heeds =>
      -- The adaptor by itself unties no handle, so that nobody connects the queue meanwhile.
      obtain ⟨after, aside⟩ :=
        sound.tasks.aside AdaptorTasks.fresh_none distinct member step stays happened
      exact (heeds.undisturbed sound.inbox aside.untied).shut shut

/-- So it does however long everybody goes on. -/
theorem QueueHistory.onward {later : FedAdaptor} (history : QueueHistory adaptor inlet fed)
    (distinct : (adaptor.sources.map (·.key)).Nodup) (member : inlet.source ∈ adaptor.sources)
    (shut : fed.inbox.traffic.Shut)
    (onward : Relation.ReflTransGen (FedAdaptor.Onward adaptor inlet) fed later) :
    QueueHistory adaptor inlet later ∧ later.inbox.traffic.Shut ∧
      later.inbox.traffic.accepted = fed.inbox.traffic.accepted := by
  -- A new run may have begun in the meantime; its worker has not connected the queue.
  induction onward with
  | refl => exact ⟨history, shut, rfl⟩
  | @tail middle later _ next ih =>
    obtain ⟨reached, shut, same⟩ := ih
    obtain ⟨still, also⟩ := reached.stays_shut distinct member shut next
    refine ⟨?_, still, also.trans same⟩
    cases next with
    | step step apart => exact reached.step step
    | again returned => exact reached.again returned

end Handoff

end BatchFlow
