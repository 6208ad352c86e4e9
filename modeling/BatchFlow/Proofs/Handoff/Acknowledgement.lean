import BatchFlow.Proofs.Handoff.ResourceCalls
import BatchFlow.Proofs.Handoff.Safety
import BatchFlow.Proofs.Router.Atomicity
import BatchFlow.Worker

/-! What the pushers of a batch are told when a worker polls it from a transacted queue and routes
it, and when that agrees with how the transaction ended. -/

namespace BatchFlow

open Plan (Exchange)
open ResourceCall (inTrace)
open Handoff (Answer verdict? verdictOf?)

/-- What the pushers of a batch are told for what came of its traversal. -/
def verdictFor : Except RouteFailure Terminal → Answer
  | .ok _ => .ok ()
  | .error failure => .error (.rolledBack failure.text)

/-- What a pusher is told agrees with how a transaction ended. -/
def Agrees (phase : Phase) (answer : Answer) : Prop :=
  (answer = .ok () ↔ phase = .committed) ∧
    (phase = .rolledBack → ∃ cause, answer = .error (.rolledBack cause))

/-- Whether a resource was asked to commit and could not. -/
def ResourceCall.isFailedCommit : ResourceCall → Bool
  | committed _ (.error _) => true
  | began .. | committed _ (.ok _) | rolledBack .. => false

/-- Whether some commit failed. -/
def commitFailed (calls : List ResourceCall) : Bool := calls.any (·.isFailedCommit)

/-- A resource of this key never failed to begin or to commit. -/
def Obeys (key : Nat) (calls : List ResourceCall) : Prop :=
  ∀ own cause, (.began own (.error cause) ∈ calls ∨ .committed own (.error cause) ∈ calls) →
    own.key ≠ key

/-- Calls to begin decide nothing. -/
theorem verdict?_began (key : Nat) (begun : List (Resource × Except Condition Unit))
    (rest : List ResourceCall) :
    verdict? key (begun.map (fun pair => .began pair.1 pair.2) ++ rest) = verdict? key rest := by
  -- Each of them is looked at and passed over.
  induction begun with
  | nil => rfl
  | cons pair others ih => exact ih

namespace Router.Settled

variable {transaction : Transaction} {during after : List ResourceCall}
  {result : Except RouteFailure Terminal}

/-- The resource that began first is the first to be asked to commit or to roll back, so it
commits exactly if the walk went well, whatever becomes of the other commits. -/
theorem verdict {resource : Resource} (settled : Settled transaction during after result)
    (begins : ∃ reply rest, during ++ after = .began resource reply :: rest)
    (obeys : Obeys resource.key (during ++ after)) :
    verdict? resource.key (during ++ after) = some (verdictFor result) := by
  obtain ⟨reply, rest, begins⟩ := begins
  -- The begins at the start of the trace are passed over.
  have skip : ∀ (resources : List Resource) (rest : List ResourceCall),
      verdict? resource.key (resources.map (.began · (.ok ())) ++ rest) =
        verdict? resource.key rest := by
    intro resources rest
    have began := verdict?_began resource.key (resources.map (·, .ok ())) rest
    rw [List.map_map] at began
    exact began
  -- In every case the first resource that takes part is the one that began first.
  cases settled with
  | committed results phase told delisted =>
    -- All commits succeed, the first of them among these.
    rw [skip]
    cases same : transaction.enlisted with
    | nil => simp [same] at begins
    | cons first others =>
      rw [same, List.map_cons, List.cons_append] at begins
      cases begins
      simp [verdict?, verdictOf?, verdictFor]
  -- Some commit failed, but the first one that was asked for came before it.
  | rolledBack results phase told delisted done failing cause rest split =>
    rw [skip]
    rw [split] at begins
    cases done with
    | nil =>
      -- The queue's own commit does not fail.
      rw [List.nil_append, List.map_cons, List.cons_append] at begins
      cases begins
      exact absurd rfl (obeys _ cause (.inr (by simp)))
    | cons first others =>
      rw [List.cons_append, List.map_cons, List.cons_append] at begins
      cases begins
      simp [verdict?, verdictOf?, verdictFor]
  -- Nothing was asked to commit, so the first to roll back decides.
  | abandoned failure phase refused single apart =>
    rw [List.append_assoc, skip]
    have refusals := verdict?_began resource.key
      (refused.map fun pair => (pair.1, .error pair.2))
      (transaction.enlisted.map (.rolledBack · failure.text))
    rw [List.map_map] at refusals
    refine Eq.trans refusals ?_
    cases same : transaction.enlisted with
    | nil =>
      cases refused with
      | nil => simp [same] at begins
      | cons pair others =>
        -- The queue's own begin does not fail either.
        rw [same, List.map_nil, List.nil_append, List.map_cons, List.cons_append] at begins
        cases begins
        exact absurd rfl (obeys _ pair.2 (.inl (by simp)))
    | cons first others =>
      rw [same, List.map_cons, List.cons_append, List.cons_append] at begins
      cases begins
      simp [verdict?, verdictOf?, verdictFor]

/-- Where a commit failed, the walk itself went well, but the transaction rolled back. -/
theorem of_commitFailed (settled : Settled transaction during after result)
    (failed : commitFailed (during ++ after) = true) :
    verdictFor result = .ok () ∧ transaction.phase = .rolledBack := by
  -- Only in the middle shape is there a commit that fails.
  cases settled with
  | committed results phase told delisted =>
    simp [commitFailed, ResourceCall.isFailedCommit] at failed
  | rolledBack results phase told delisted done failing cause rest split => exact ⟨rfl, phase⟩
  | abandoned failure phase refused single apart =>
    simp [commitFailed, ResourceCall.isFailedCommit] at failed

/-- What the pushers are told agrees with the transaction exactly if no commit failed. -/
theorem agrees_iff (settled : Settled transaction during after result) :
    Agrees transaction.phase (verdictFor result) ↔ commitFailed (during ++ after) = false := by
  -- Where one failed, the answer and the phase are known, and do not agree.
  by_cases failed : commitFailed (during ++ after) = true
  · obtain ⟨told, phase⟩ := settled.of_commitFailed failed
    simp [Agrees, told, phase, failed]
  · refine iff_of_true ?_ (Bool.eq_false_iff.mpr failed)
    cases settled with
    | committed results phase told delisted => simp [Agrees, verdictFor, phase]
    | rolledBack results phase told delisted done failing cause rest split =>
      -- This is where a commit failed.
      exact absurd (by simp [commitFailed, ResourceCall.isFailedCommit]) failed
    | abandoned failure phase refused single apart => simp [Agrees, verdictFor, phase]

end Router.Settled

/-- A worker that routes a batch asks for what the message needs, the resource of the producer being
the last of it, and shows the producer what the traversal left behind. -/
theorem Worker.routeBatch_runs {worker : Worker} {items : List Item} {trace : List Exchange}
    {outcome : Except WorkerFailure Unit} (transactional : worker.source.transactional = true)
    (runs : (worker.routeBatch items).Runs trace outcome) :
    ∃ metadata context origin routing rest result,
      trace = [⟨.newMetadata, metadata⟩, ⟨.contextOf worker.source.key, context⟩,
        ⟨.producerResource worker.source.key, origin⟩] ++ routing ++ rest ∧
      (worker.router.route worker.allowance.depth ⟨worker.source.id, items, context, worker.name,
        none, origin, metadata⟩).Runs routing result ∧ inTrace rest = [] := by
  -- The message is put together, routed, and its results are shown.
  obtain ⟨message, asking, later, rfl, asked, more⟩ := Plan.runs_bind_iff.mp runs
  obtain ⟨result, routing, rest, rfl, routed, shown⟩ := Plan.runs_bind_iff.mp more
  simp only [messageFor, transactional, if_true, Plan.call, Plan.ask_bind, Plan.done_bind,
    Plan.pure_eq_done, Plan.runs_ask_iff, Plan.runs_done_iff] at asked
  -- A source that takes part in transactions is asked for its resource.
  obtain ⟨metadata, _, rfl, context, _, rfl, origin, _, rfl, rfl, rfl⟩ := asked
  refine ⟨metadata, context, origin, routing, rest, result, by simp, routed, ?_⟩
  -- What is shown to the producer is no call on a resource.
  cases result with
  | error failure =>
    obtain ⟨rfl, _⟩ := Plan.runs_done_iff.mp shown
    rfl
  | ok results =>
    simp only [Plan.call, Plan.ask_bind, Plan.done_bind, Plan.runs_ask_iff] at shown
    obtain ⟨reply, rest, rfl, ended⟩ := shown
    cases reply <;> obtain ⟨rfl, _⟩ := Plan.runs_done_iff.mp ended <;> rfl

/-- Where the producer offers a resource that neither fails to begin nor to commit, routing a batch
is a walk that decides what the holder of the resource tells the pushers. -/
theorem Worker.routeBatch_settles {worker : Worker} {resource : Resource} {items : List Item}
    {trace : List Exchange} {outcome : Except WorkerFailure Unit}
    (transactional : worker.source.transactional = true)
    (routed : (worker.routeBatch items).Runs trace outcome)
    (offers : ∀ origin, ⟨.producerResource worker.source.key, origin⟩ ∈ trace →
      origin = some resource) (obeys : Obeys resource.key (inTrace trace)) :
    ∃ (message : Message) (traversal : Traversal) (result : Except RouteFailure Terminal)
      (before routing after : List Exchange) (during closing : List ResourceCall),
      (message.data = items ∧ message.origin = some resource) ∧
      trace = before ++ routing ++ after ∧ inTrace trace = inTrace routing ∧
      (worker.router.walk worker.allowance.depth message).Runs routing (traversal, result) ∧
      inTrace trace = during ++ closing ∧
      Router.Settled traversal.transaction during closing result ∧
      verdict? resource.key (inTrace trace) = some (verdictFor result) := by
  obtain ⟨metadata, context, origin, routing, rest, result, split, ran, quiet⟩ :=
    Worker.routeBatch_runs transactional routed
  obtain ⟨traversal, walks⟩ := Router.route_runs_iff.mp ran
  obtain rfl : origin = some resource := offers origin (by simp [split])
  -- Only the routing calls resources.
  have calls : inTrace trace = inTrace routing := by
    rw [split, ResourceCall.inTrace_append, ResourceCall.inTrace_append, quiet, List.append_nil]
    rfl
  -- The walk settles all resources in one of three ways, the one of the producer first.
  obtain ⟨working, closing, parts, _, _, settled⟩ := Router.walk_settles walks
  have begins := Router.walk_begins rfl walks
  have whole : inTrace trace = inTrace working ++ inTrace closing := by
    rw [calls, parts, ResourceCall.inTrace_append]
  rw [← calls, whole] at begins
  rw [whole] at obeys
  -- So the first call that ends the work of that resource says what came of the walk.
  exact ⟨_, traversal, result, _, routing, rest, _, _, ⟨rfl, rfl⟩, split, calls, walks, whole,
    settled, whole ▸ settled.verdict begins obeys⟩

namespace Handoff

/-- One turn of a worker whose producer is a transacted queue. A poll hands out a batch that nobody
had before, the producer holds what it receives, and the worker routes the batch, while everybody
else goes on calling the queue. -/
inductive Turn (worker : Worker) (resource : Resource) :
    Service → List Pending → List Exchange → Except WorkerFailure Unit → Service → Prop where
  | of {start finish : Service} {traffic : Traffic} {batch : List Pending} {trace : List Exchange}
      {outcome : Except WorkerFailure Unit} (size : Nat)
      (moves : Relation.ReflTransGen Traffic.Move start.traffic traffic)
      (polled : ∃ poll ∈ traffic.polls, poll.poller = .finished batch)
      (fresh : ∀ pending ∈ batch, pending ∉ start.traffic.handed)
      (routed : (worker.routeBatch (batch.map (·.item))).Runs trace outcome)
      (served : Serves resource worker.source.key
        ⟨traffic, ((start.producer resource size).receive batch).held⟩ trace finish) :
    Turn worker resource start batch trace outcome finish

/-- What becomes of a new queue with a worker that takes its turns. -/
inductive Serving (worker : Worker) (resource : Resource) (capacity : Nat) : Service → Prop where
  | opened : Serving worker resource capacity ⟨.ofCapacity capacity, []⟩
  | move {service : Service} {traffic : Traffic}
      (serving : Serving worker resource capacity service)
      (moved : service.traffic.Move traffic) :
    Serving worker resource capacity ⟨traffic, service.held⟩
  | turn {start finish : Service} {batch : List Pending} {trace : List Exchange}
      {outcome : Except WorkerFailure Unit} (serving : Serving worker resource capacity start)
      (turn : Turn worker resource start batch trace outcome finish) :
    Serving worker resource capacity finish

/-- The pusher of an item was given one answer, and has been told so or is about to be. -/
structure Traffic.AnsweredOnce (traffic : Traffic) (pending : Pending)
    (answer : Answer) : Prop where
  given : traffic.queue.answer? pending.ack = some answer
  once : (traffic.queue.answers.map (·.1)).count pending.ack = 1
  told : ∃ push ∈ traffic.pushes, push.item = pending.item ∧ push.entry = some pending.ack ∧
    (push.pusher = .finished answer ∨ push.pusher = .awaiting pending.ack ∨
      ∃ ticket, push.pusher = .announcing ticket pending.ack)

/-- Whatever is answered for is answered for once, to the call that pushed it. -/
theorem Traffic.Sound.answeredOnce {traffic : Traffic} (sound : traffic.Sound) {pending : Pending}
    (accepted : pending ∈ traffic.accepted) {answer : Answer}
    (known : traffic.queue.answer? pending.ack = some answer) :
    traffic.AnsweredOnce pending answer where
  given := known
  once := by
    refine List.count_eq_one_of_mem sound.custody.single ?_
    -- The number is among the answers, or there would be none.
    by_contra absent
    have open_ : traffic.queue.answer? pending.ack = none :=
      Queue.answer?_eq_none_iff.mpr fun given member same =>
        absent (List.mem_map.mpr ⟨given, member, same⟩)
    rw [open_] at known
    cases known
  told := by
    -- The number of an accepted item was given to one call.
    have numbered : pending.ack ∈ List.range traffic.queue.nextAck := by
      rw [← sound.custody.numbered]
      exact List.mem_map.mpr ⟨pending, accepted, rfl⟩
    obtain ⟨push, member, entry⟩ := List.mem_filterMap.mp (sound.entries.mem_iff.mpr numbered)
    obtain ⟨queued, stands⟩ := sound.pushes push member
    -- Two accepted items with one number are one item.
    have own := List.inj_on_of_nodup_map sound.custody.distinct (queued entry) accepted rfl
    refine ⟨push, member, congrArg (·.item) own, entry, ?_⟩
    rw [entry] at stands
    -- Since it has a number, the call has come to announce the item at least.
    cases stage : push.pusher with
    | arriving item | trying item ticket | parked item ticket =>
      rw [stage] at stands
      cases stands.2
    | announcing ticket ack =>
      rw [stage] at stands
      cases stands
      exact .inr (.inr ⟨ticket, rfl⟩)
    | awaiting ack =>
      rw [stage] at stands
      cases stands
      exact .inr (.inl rfl)
    -- If the call is over, it was told the answer that is known.
    | finished other =>
      rw [stage] at stands
      rcases stands with ⟨none, _⟩ | ⟨ack, same, given⟩
      · cases none
      · cases same
        rw [known] at given
        cases given
        exact .inl rfl

/-- What a poll returned was handed out. -/
theorem Traffic.Sound.departed_of_polled {traffic : Traffic} (sound : traffic.Sound)
    {batch : List Pending} (polled : ∃ poll ∈ traffic.polls, poll.poller = .finished batch) :
    ∀ pending ∈ batch, .handed pending ∈ traffic.departed := by
  intro pending member
  obtain ⟨poll, called, finished⟩ := polled
  have got : pending ∈ poll.poller.batch := by
    rw [finished]
    exact member
  -- What was handed out is with the calls that polled, and with nobody else.
  have handed := sound.batches.mem_iff.mpr (List.mem_flatMap.mpr ⟨poll, called, got⟩)
  exact Traffic.Sound.mem_departed_of_handed handed

/-- A batch that a poll hands out is held with open acknowledgements. -/
theorem Service.Sound.receive {service : Service} (sound : service.Sound)
    {traffic : Traffic} {batch : List Pending}
    (moves : Relation.ReflTransGen Traffic.Move service.traffic traffic)
    (polled : ∃ poll ∈ traffic.polls, poll.poller = .finished batch)
    (fresh : ∀ pending ∈ batch, pending ∉ service.traffic.handed) (idle : service.held = []) :
    Service.Sound ⟨traffic, service.held ++ batch.map (·.ack)⟩ := by
  have later := Traffic.Moves.sound moves sound.traffic
  have departed := later.departed_of_polled polled
  rw [idle, List.nil_append]
  constructor
  case traffic => exact later
  case handed =>
    intro ack held
    obtain ⟨pending, member, same⟩ := List.mem_map.mp held
    exact ⟨pending, departed pending member, same⟩
  case waiting =>
    intro ack held
    obtain ⟨pending, member, rfl⟩ := List.mem_map.mp held
    refine Traffic.Moves.open_of_handed moves sound.traffic (departed pending member) ?_
    -- What had been handed out before is no part of the batch.
    intro before
    exact fresh pending member (Traffic.Sound.mem_handed_of_departed before)

/-- The resource of a queue neither fails to begin nor to commit. -/
theorem Serves.obeys {resource : Resource} {source : Nat} {service later : Service}
    {trace : List Exchange} (serves : Serves resource source service trace later) :
    Obeys resource.key (inTrace trace) := by
  rintro own cause failed same
  -- Either failure would be an exchange of the trace, and the resource takes part in no such.
  rcases failed with member | member
  all_goals
    obtain ⟨⟨question, reply⟩, asked, is⟩ := List.mem_filterMap.mp member
    have fine := serves.obliging _ asked
    cases question <;> cases is
    simp [isObliging, same, Except.toBool] at fine

/-- What a turn comes to: the walk that the worker goes on with the batch, and what the pushers of
the batch are told for it. -/
structure Acknowledged (worker : Worker) (resource : Resource) (batch : List Pending)
    (trace : List Exchange) (finish : Service) (message : Message) (traversal : Traversal)
    (result : Except RouteFailure Terminal) : Prop where
  /-- The message of the batch brings the resource of the queue. -/
  brings : message.data = batch.map (·.item) ∧ message.origin = some resource
  walks : ∃ before routing after, trace = before ++ routing ++ after ∧
    inTrace trace = inTrace routing ∧
    (worker.router.walk worker.allowance.depth message).Runs routing (traversal, result)
  released : finish.held = []
  answered : ∀ pending ∈ batch, finish.traffic.AnsweredOnce pending (verdictFor result)
  /-- The answer agrees with the transaction exactly if no commit failed. -/
  exact : Agrees traversal.transaction.phase (verdictFor result) ↔
    commitFailed (inTrace trace) = false
  /-- If one failed, everybody is told that it went well, and yet the transaction rolled back. -/
  otherwise : commitFailed (inTrace trace) = true →
    verdictFor result = .ok () ∧ traversal.transaction.phase = .rolledBack

/-- From a service that holds nothing, every turn ends in one that holds nothing. -/
theorem Turn.acknowledges {worker : Worker} {resource : Resource} {start finish : Service}
    {batch : List Pending} {trace : List Exchange} {outcome : Except WorkerFailure Unit}
    (transactional : worker.source.transactional = true) (sound : start.Sound)
    (idle : start.held = []) (turn : Turn worker resource start batch trace outcome finish) :
    finish.Sound ∧ ∃ message traversal result,
      Acknowledged worker resource batch trace finish message traversal result := by
  cases turn with
  | of size moves polled fresh routed served =>
    -- The resource holds the batch when the worker begins to route it.
    have received := sound.receive moves polled fresh idle
    obtain ⟨last, follows, decided⟩ := served.answers received
    -- The producer offered its resource.
    have offers : ∀ origin, ⟨.producerResource worker.source.key, origin⟩ ∈ trace →
        origin = some resource := by
      intro origin asked
      simpa [isObliging] using served.obliging _ asked
    obtain ⟨message, traversal, result, before, routing, after, during, closing, brings, split,
      calls, walks, whole, settled, verdict⟩ :=
      Worker.routeBatch_settles transactional routed offers served.obeys
    rw [verdict] at decided
    obtain ⟨released, answered⟩ := decided
    refine ⟨last, message, traversal, result, brings,
      ⟨before, routing, after, split, calls, walks⟩, released, ?_, whole ▸ settled.agrees_iff,
      whole ▸ settled.of_commitFailed⟩
    -- Every item of the batch was handed out, so its pusher is known.
    intro pending member
    have left : .handed pending ∈ finish.traffic.departed :=
      follows.departed (received.traffic.departed_of_polled polled pending member)
    refine last.traffic.answeredOnce (last.traffic.custody.mem_accepted left) ?_
    exact answered _ (List.mem_append_right _ (List.mem_map.mpr ⟨pending, member, rfl⟩))

/-- Between its turns, a worker leaves nothing held. -/
theorem Serving.idle {worker : Worker} {resource : Resource} {capacity : Nat} {service : Service}
    (transactional : worker.source.transactional = true)
    (serving : Serving worker resource capacity service) :
    service.Sound ∧ service.held = [] := by
  -- What a turn needs at its beginning is left behind by the one before.
  induction serving with
  | opened => exact ⟨⟨Traffic.sound_ofCapacity capacity, by simp, by simp⟩, rfl⟩
  | move serving moved ih => exact ⟨ih.1.move moved, ih.2⟩
  | turn serving turn ih =>
    obtain ⟨last, message, traversal, result, acknowledged⟩ :=
      turn.acknowledges transactional ih.1 ih.2
    exact ⟨last, acknowledged.released⟩

/-- In every turn of a worker, whatever else happens and whatever fails, the pusher of every item
of the batch is answered once: that its item was taken care of if the traversal went well, and that
it rolled back for the failure otherwise. That agrees with the transaction unless some resource
could not commit. -/
theorem batch_acknowledged {worker : Worker} {resource : Resource} {capacity : Nat}
    {start finish : Service} {batch : List Pending} {trace : List Exchange}
    {outcome : Except WorkerFailure Unit} (transactional : worker.source.transactional = true)
    (serving : Serving worker resource capacity start)
    (turn : Turn worker resource start batch trace outcome finish) :
    ∃ message traversal result,
      Acknowledged worker resource batch trace finish message traversal result := by
  obtain ⟨sound, idle⟩ := serving.idle transactional
  exact (turn.acknowledges transactional sound idle).2

/-- A worker that feeds a node from a queue, both of which take part in transactions. -/
def tableWorker : Worker where
  source := ⟨0, "inbox", "queue", true, ⟨0⟩, []⟩
  router :=
    { topology := ⟨[("inbox", ⟨["table"], [], []⟩)], [], ["inbox"], ["table"], .builtIn⟩
      nodes := .ofList [{ Node.plain "table" .step "copy" with transactional := true }] }
  restart := .never
  allowance := ⟨2, 1⟩

/-- Surroundings in which the table cannot commit. -/
def tableFull : Plan.Surroundings
  | _, .producerResource _ => some ⟨0, "inbox"⟩
  | _, .nodeResource node => some ⟨1, node⟩
  | _, .commitWork resource =>
    if resource.key = 1 then .error (.processing "table is full") else .ok ()
  | _, call => Plan.uneventful call

/-- The pusher of an item is told that it was taken care of, and yet its transaction is rolled
back, because the table could not commit after the queue. -/
theorem batch_acknowledged_full_table :
    ∃ (start finish : Service) (batch : List Pending) (trace : List Exchange)
      (outcome : Except WorkerFailure Unit) (traversal : Traversal),
      Serving tableWorker ⟨0, "inbox"⟩ 1 start ∧
      Turn tableWorker ⟨0, "inbox"⟩ start batch trace outcome finish ∧ batch = [⟨.null, 0⟩] ∧
      finish.traffic.AnsweredOnce ⟨.null, 0⟩ (.ok ()) ∧
      traversal.transaction.phase = .rolledBack := by
  -- A caller queues an item and announces it.
  have arrived : Relation.ReflTransGen Traffic.Move (.ofCapacity 1) _ := .single (.arrive _ .null)
  have drawn := arrived.tail (.push _ [] [] _ _ _ rfl rfl rfl)
  have queued := drawn.tail (.push _ [] [] _ _ _ rfl rfl rfl)
  have announced := queued.tail (.push _ [] [] _ _ _ rfl rfl rfl)
  -- The worker polls it.
  have requested := announced.tail (.request _ 4)
  have looking := requested.tail (.poll _ [] [] _ _ _ rfl rfl rfl)
  have taken := looking.tail (.poll _ [] [] _ _ _ rfl rfl rfl)
  have finished := taken.tail (.poll _ [] [] _ _ _ rfl rfl rfl)
  -- It routes the batch, and the table cannot commit.
  obtain ⟨trace, outcome, routed, checked⟩ := Plan.exists_run tableFull
    (tableWorker.routeBatch [.null])
    (fun ended => ended.1.all (isObliging ⟨0, "inbox"⟩ 0) && commitFailed (inTrace ended.1))
    (by decide)
  -- The queue itself did what it was asked, so it can have gone through the trace.
  obtain ⟨obliging, failed⟩ := Bool.and_eq_true_iff.mp checked
  obtain ⟨finish, served⟩ := exists_serves ⟨_, [0]⟩ (List.all_eq_true.mp obliging)
  have turn : Turn tableWorker ⟨0, "inbox"⟩ ⟨.ofCapacity 1, []⟩ [⟨.null, 0⟩] trace outcome finish :=
    .of 4 finished ⟨_, List.mem_singleton.mpr rfl, rfl⟩
      (by simp [Traffic.handed, Traffic.ofCapacity]) routed served
  obtain ⟨message, traversal, result, acknowledged⟩ := batch_acknowledged rfl .opened turn
  obtain ⟨told, phase⟩ := acknowledged.otherwise failed
  refine ⟨_, finish, _, trace, outcome, traversal, .opened, turn, rfl, ?_, phase⟩
  exact told ▸ acknowledged.answered _ (List.mem_singleton.mpr rfl)

end Handoff

end BatchFlow
