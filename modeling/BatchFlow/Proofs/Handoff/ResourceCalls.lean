import BatchFlow.Producer.Queue
import BatchFlow.Proofs.Handoff.Soundness
import BatchFlow.Proofs.Transaction.Operations
import Mathlib.Logic.Relation

/-! How the resource of a producer over a transacted queue takes what a traversal asks of it, while
everybody else goes on calling the queue. -/

namespace BatchFlow.Handoff

open Plan (Exchange)
open ResourceCall (inTrace)

/-- The traffic at the queue of a producer, with the acknowledgements that its resource holds. -/
structure Service where
  traffic : Traffic
  held : List Nat

/-- The transacted producer over the queue, which offers a resource and takes batches of a size. -/
def Service.producer (service : Service) (resource : Resource) (size : Nat) : QueueProducer :=
  ⟨service.traffic.queue, service.held, size, true, resource⟩

/-- Somebody gives acknowledgements one after another, between which anybody may move. -/
inductive Gives (answer : Answer) : List Nat → Traffic → Traffic → Prop where
  | done (traffic : Traffic) : Gives answer [] traffic traffic
  | move {acks : List Nat} {traffic middle later : Traffic} (moved : traffic.Move middle)
      (rest : Gives answer acks middle later) : Gives answer acks traffic later
  | give {ack : Nat} {acks : List Nat} {traffic later : Traffic}
      (rest : Gives answer acks { traffic with queue := traffic.queue.settle answer ack } later) :
    Gives answer (ack :: acks) traffic later

/-- With nobody in between, all are settled in a row. -/
theorem gives_settleAll (answer : Answer) (acks : List Nat) (traffic : Traffic) :
    Gives answer acks traffic { traffic with queue := traffic.queue.settleAll answer acks } := by
  -- What is given first is settled first.
  induction acks generalizing traffic with
  | nil => exact .done traffic
  | cons ack rest ih => exact .give (ih _)

/-- Whether a question is one that the producer of a key answers, or its resource. -/
def Concerns (resource : Resource) (source : Nat) : Call → Prop
  | .producerResource key | .poll key _ | .shutdownProducer key | .connectProducer key =>
    key = source
  | .beginWork own | .commitWork own | .rollbackWork own _ => own.key = resource.key
  | _ => False

/-- What becomes of the service of a queue while somebody goes through a trace. The producer offers
its resource; that has nothing to do to begin, and gives what it holds when it is to commit or to
roll back, which never fails. -/
inductive Serves (resource : Resource) (source : Nat) :
    Service → List Exchange → Service → Prop where
  | done (service : Service) : Serves resource source service [] service
  | move {service later : Service} {traffic : Traffic} {trace : List Exchange}
      (moved : service.traffic.Move traffic)
      (rest : Serves resource source ⟨traffic, service.held⟩ trace later) :
    Serves resource source service trace later
  | offer {service later : Service} {trace : List Exchange}
      (rest : Serves resource source service trace later) :
    Serves resource source service (⟨.producerResource source, some resource⟩ :: trace) later
  | begin {service later : Service} {trace : List Exchange} {own : Resource}
      (same : own.key = resource.key) (rest : Serves resource source service trace later) :
    Serves resource source service (⟨.beginWork own, .ok ()⟩ :: trace) later
  | commit {service later : Service} {traffic : Traffic} {trace : List Exchange} {own : Resource}
      (same : own.key = resource.key)
      (given : Gives (.ok ()) service.held service.traffic traffic)
      (rest : Serves resource source ⟨traffic, []⟩ trace later) :
    Serves resource source service (⟨.commitWork own, .ok ()⟩ :: trace) later
  | rollback {service later : Service} {traffic : Traffic} {trace : List Exchange}
      {own : Resource} {cause : String} (same : own.key = resource.key)
      (given : Gives (.error (.rolledBack cause)) service.held service.traffic traffic)
      (rest : Serves resource source ⟨traffic, []⟩ trace later) :
    Serves resource source service (⟨.rollbackWork own cause, .ok ()⟩ :: trace) later
  | other {service later : Service} {trace : List Exchange} {exchange : Exchange}
      (apart : ¬ Concerns resource source exchange.call)
      (rest : Serves resource source service trace later) :
    Serves resource source service (exchange :: trace) later

/-- If nobody comes in between, the service commits as its producer does. -/
theorem serves_commit (service : Service) (resource : Resource) (source size : Nat) :
    ∃ later, Serves resource source service [⟨.commitWork resource, .ok ()⟩] later ∧
      later.producer resource size = (service.producer resource size).commit := by
  have given := gives_settleAll (.ok ()) service.held service.traffic
  exact ⟨_, .commit rfl given (.done _), rfl⟩

/-- It rolls back as its producer does, too. -/
theorem serves_rollback (service : Service) (resource : Resource) (source size : Nat)
    (cause : String) :
    ∃ later, Serves resource source service [⟨.rollbackWork resource cause, .ok ()⟩] later ∧
      later.producer resource size = (service.producer resource size).rollback cause := by
  have given := gives_settleAll (.error (.rolledBack cause)) service.held service.traffic
  exact ⟨_, .rollback rfl given (.done _), rfl⟩

/-- What the holder of a key tells whoever waits for it, if a call is the end of its work. -/
def verdictOf? (key : Nat) : ResourceCall → Option Answer
  | .began .. => none
  | .committed own _ => if own.key = key then some (.ok ()) else none
  | .rolledBack own cause => if own.key = key then some (.error (.rolledBack cause)) else none

/-- The first call that ends the work of a key decides. -/
def verdict? (key : Nat) (calls : List ResourceCall) : Option Answer :=
  calls.findSome? (verdictOf? key)

namespace Traffic

variable {traffic later : Traffic}

/-- What has left the queue does not come back. -/
theorem Move.departed_mono (moved : Move traffic later) {departure : Departure}
    (left : departure ∈ traffic.departed) : departure ∈ later.departed := by
  -- Whatever leaves is added to what had left.
  cases moved with
  | poll | chore => exact List.mem_append_left _ left
  | _ => exact left

/-- No move takes an answer back. -/
theorem Move.extends (moved : Move traffic later) : later.queue.Extends traffic.queue := by
  -- The answers are the same, or there is one more.
  rcases moved.keeps.2 with same | ⟨refused, _, same⟩
  · intro ack answer known
    rw [Queue.answer?_of_answers same]
    exact known
  · rw [same]
    exact traffic.queue.extends_settle _ _

/-- No move answers for an item that was handed out by then. -/
theorem Move.open_of_handed (moved : Move traffic later) (sound : traffic.Sound)
    {pending : Pending} (handed : .handed pending ∈ later.departed)
    (open_ : traffic.queue.answer? pending.ack = none) :
    later.queue.answer? pending.ack = none := by
  rcases moved.keeps.2 with same | ⟨refused, refusing, same⟩
  · rw [Queue.answer?_of_answers same]
    exact open_
  · -- What is refused was taken away, and so is never handed out.
    obtain ⟨other, withdrawn, own⟩ := sound.refusing refusing
    -- No item leaves the queue in two ways.
    have apart : refused ≠ pending.ack := by
      rintro rfl
      have custody := (sound.move moved).custody
      have equal := custody.departure_eq (moved.departed_mono withdrawn) handed own
      cases equal
    rw [same, Queue.answer?_settle, if_neg fun both => apart both.1]
    exact open_

/-- What happens later takes back neither an answer nor what has left the queue. -/
structure Follows (later earlier : Traffic) : Prop where
  answers : later.queue.Extends earlier.queue
  departed : ∀ {departure}, departure ∈ earlier.departed → departure ∈ later.departed

/-- Nothing that has happened is nothing taken back. -/
theorem Follows.refl (traffic : Traffic) : traffic.Follows traffic := ⟨id, id⟩

/-- What follows on what follows takes nothing back either. -/
theorem Follows.trans {last : Traffic} (second : last.Follows later)
    (first : later.Follows traffic) : last.Follows traffic :=
  ⟨fun known => second.answers (first.answers known),
    fun left => second.departed (first.departed left)⟩

/-- A move takes back neither an answer nor what has left. -/
theorem Move.follows (moved : Move traffic later) : later.Follows traffic :=
  ⟨moved.extends, moved.departed_mono⟩

/-- To answer for an item takes back nothing. -/
theorem follows_settle (traffic : Traffic) (answer : Answer) (ack : Nat) :
    Follows { traffic with queue := traffic.queue.settle answer ack } traffic :=
  ⟨traffic.queue.extends_settle answer ack, id⟩

/-- Any number of moves keep what one of them keeps. -/
theorem Moves.sound (moves : Relation.ReflTransGen Move traffic later) (sound : traffic.Sound) :
    later.Sound := by
  induction moves with
  -- One move after another, as far as they go.
  | refl => exact sound
  | tail _ moved ih => exact ih.move moved

/-- What was handed out by moves has stayed open. -/
theorem Moves.open_of_handed (moves : Relation.ReflTransGen Move traffic later)
    (sound : traffic.Sound) {pending : Pending} (handed : .handed pending ∈ later.departed)
    (fresh : .handed pending ∉ traffic.departed) :
    later.queue.answer? pending.ack = none := by
  -- The induction is on the moves, and the item may have been handed out by any of them.
  induction moves with
  | refl => exact absurd handed fresh
  | @tail middle later earlier moved ih =>
    -- The last move left it open if it was open before.
    have middling := Moves.sound earlier sound
    refine moved.open_of_handed middling handed ?_
    cases known : middle.queue.answer? pending.ack with
    | none => rfl
    | some answer =>
      -- Only what had left was answered for, so the item had been handed out before.
      obtain ⟨departure, left, own, _⟩ := middling.custody.answered known
      have equal := (middling.move moved).custody.departure_eq (moved.departed_mono left) handed own
      subst equal
      rw [ih left] at known
      cases known

end Traffic

/-- The acknowledgements that are held were handed out, and nobody has answered for them. -/
structure Service.Sound (service : Service) : Prop where
  traffic : service.traffic.Sound
  handed : ∀ ack ∈ service.held,
    ∃ pending, .handed pending ∈ service.traffic.departed ∧ pending.ack = ack
  waiting : ∀ ack ∈ service.held, service.traffic.queue.answer? ack = none

/-- A move does not touch what is held. -/
theorem Service.Sound.move {service : Service} {traffic : Traffic} (sound : service.Sound)
    (moved : service.traffic.Move traffic) : Service.Sound ⟨traffic, service.held⟩ where
  traffic := sound.traffic.move moved
  -- What was handed out before still is.
  handed ack held := by
    obtain ⟨pending, left, same⟩ := sound.handed ack held
    exact ⟨pending, moved.departed_mono left, same⟩
  -- Nobody else answers for what is held.
  waiting ack held := by
    obtain ⟨pending, left, rfl⟩ := sound.handed ack held
    exact moved.open_of_handed sound.traffic (moved.departed_mono left) (sound.waiting _ held)

/-- Whoever gives the acknowledgements that it holds answers for every one of them. -/
theorem Gives.answers {answer : Answer} {acks : List Nat} {traffic later : Traffic}
    (gives : Gives answer acks traffic later) (open_ : answer ≠ .error .closed)
    (sound : traffic.Sound)
    (handed : ∀ ack ∈ acks, ∃ pending, .handed pending ∈ traffic.departed ∧ pending.ack = ack)
    (free : ∀ ack ∈ acks, traffic.queue.answer? ack = none ∨
      traffic.queue.answer? ack = some answer) :
    later.Sound ∧ later.Follows traffic ∧
      ∀ ack ∈ acks, later.queue.answer? ack = some answer := by
  -- The induction is on the giving, with what is yet to be given generalised.
  induction gives with
  -- With nothing left to give there is nothing to answer for.
  | done traffic => exact ⟨sound, .refl traffic, by simp⟩
  | @move acks traffic middle later moved rest ih =>
    -- Whoever moves in between answers for none of those that are yet to be given.
    obtain ⟨last, follows, answered⟩ := ih (sound.move moved)
      (fun ack held => by
        obtain ⟨pending, left, same⟩ := handed ack held
        exact ⟨pending, moved.departed_mono left, same⟩)
      (fun ack held => by
        obtain ⟨pending, left, rfl⟩ := handed ack held
        exact (free _ held).imp
          (moved.open_of_handed sound (moved.departed_mono left)) moved.extends)
    exact ⟨last, follows.trans moved.follows, answered⟩
  | @give ack acks traffic later rest ih =>
    -- The first acknowledgement is answered with the answer, unless it was before.
    obtain ⟨pending, left, rfl⟩ := handed ack List.mem_cons_self
    have allowed : (Departure.handed pending).Allows answer := open_
    have settled : (traffic.queue.settle answer pending.ack).answer? pending.ack = some answer := by
      rw [Queue.answer?_settle]
      rcases free pending.ack List.mem_cons_self with known | known <;> simp [known]
    obtain ⟨last, follows, answered⟩ := ih (sound.settle left allowed)
      (fun other held => handed other (List.mem_cons_of_mem _ held))
      -- The others are as open as they were, or have the same answer already.
      (fun other held => by
        by_cases same : other = pending.ack
        · exact .inr (same ▸ settled)
        · show (traffic.queue.settle _ _).answer? other = none ∨
            (traffic.queue.settle _ _).answer? other = some answer
          rw [Queue.answer?_settle, if_neg fun both => same both.1.symm]
          exact free other (List.mem_cons_of_mem _ held))
    refine ⟨last, follows.trans (Traffic.follows_settle _ _ _), ?_⟩
    intro other held
    rcases List.mem_cons.mp held with rfl | held
    · exact follows.answers settled
    · exact answered other held

/-- Calls that do not concern the producer decide nothing for it. -/
theorem verdict?_other {resource : Resource} {source : Nat} {exchange : Exchange}
    {trace : List Exchange} (apart : ¬ Concerns resource source exchange.call) :
    verdict? resource.key (inTrace (exchange :: trace)) =
      verdict? resource.key (inTrace trace) := by
  obtain ⟨call, reply⟩ := exchange
  cases call
  -- Another resource ends its own work.
  case commitWork own =>
    have different : own.key ≠ resource.key := apart
    simp [verdict?, verdictOf?, different]
  case rollbackWork own cause =>
    have different : own.key ≠ resource.key := apart
    simp [verdict?, verdictOf?, different]
  -- No other question ends any work.
  all_goals rfl

/-- Giving all that is held leaves a sound service that holds nothing. -/
theorem Service.Sound.release {service : Service} {traffic : Traffic} {answer : Answer}
    (sound : service.Sound) (given : Gives answer service.held service.traffic traffic)
    (open_ : answer ≠ .error .closed) :
    Service.Sound ⟨traffic, []⟩ ∧ traffic.Follows service.traffic ∧
      ∀ ack ∈ service.held, traffic.queue.answer? ack = some answer := by
  -- What is held is waiting, so that this answer is the one that counts.
  obtain ⟨last, follows, answered⟩ := given.answers open_ sound.traffic sound.handed
    fun ack held => .inl (sound.waiting ack held)
  exact ⟨⟨last, by simp, by simp⟩, follows, answered⟩

/-- What becomes of the acknowledgements that a service holds: they are given with the answer that
was decided on, or are held on to if nothing was. -/
def Service.Gave (service later : Service) : Option Answer → Prop
  | none => later.held = service.held
  | some answer => later.held = [] ∧
    ∀ ack ∈ service.held, later.traffic.queue.answer? ack = some answer

/-- A service that holds nothing comes to hold nothing. -/
theorem Service.Gave.idle {service later : Service} {decided : Option Answer}
    (gave : service.Gave later decided) (bare : service.held = []) : later.held = [] := by
  cases decided with
  | none => exact gave.trans bare
  | some answer => exact gave.1

/-- Once all that is held was given, whatever comes after it decides nothing more. -/
theorem Service.Sound.decided {service later : Service} {traffic : Traffic} {answer : Answer}
    {after : Option Answer} (sound : service.Sound)
    (given : Gives answer service.held service.traffic traffic) (open_ : answer ≠ .error .closed)
    (rest : Service.Sound ⟨traffic, []⟩ → later.Sound ∧ later.traffic.Follows traffic ∧
      Service.Gave ⟨traffic, []⟩ later after) :
    later.Sound ∧ later.traffic.Follows service.traffic ∧ service.Gave later (some answer) := by
  obtain ⟨released, grown, answered⟩ := sound.release given open_
  obtain ⟨last, follows, gave⟩ := rest released
  -- The answers that were given are still there later.
  have kept : ∀ ack ∈ service.held, later.traffic.queue.answer? ack = some answer :=
    fun ack held => follows.answers (answered ack held)
  exact ⟨last, follows.trans grown, gave.idle rfl, kept⟩

/-- The first call that ends the work of the resource decides what every pusher is told whose
acknowledgement it held, and without such a call they are all still waiting. -/
theorem Serves.answers {resource : Resource} {source : Nat} {service later : Service}
    {trace : List Exchange} (serves : Serves resource source service trace later)
    (sound : service.Sound) :
    later.Sound ∧ later.traffic.Follows service.traffic ∧
      service.Gave later (verdict? resource.key (inTrace trace)) := by
  -- The induction is on the trace, where the first call that ends the work of the resource decides.
  induction serves with
  | done service => exact ⟨sound, .refl service.traffic, rfl⟩
  | @move service later traffic trace moved rest ih =>
    -- Somebody else's move leaves what is held with the service.
    obtain ⟨last, follows, gave⟩ := ih (sound.move moved)
    exact ⟨last, follows.trans moved.follows, gave⟩
  | offer rest ih => exact ih sound
  | begin same rest ih => exact ih sound
  | @commit service later traffic trace own same given rest ih =>
    have decides : verdict? resource.key (inTrace (⟨.commitWork own, .ok ()⟩ :: trace)) =
        some (.ok ()) := by
      simp [verdict?, verdictOf?, same]
    rw [decides]
    exact sound.decided given (by simp) ih
  | @rollback service later traffic trace own cause same given rest ih =>
    have decides : verdict? resource.key (inTrace (⟨.rollbackWork own cause, .ok ()⟩ :: trace)) =
        some (.error (.rolledBack cause)) := by
      simp [verdict?, verdictOf?, same]
    rw [decides]
    exact sound.decided given (by simp) ih
  | @other service later trace exchange apart rest ih =>
    rw [verdict?_other apart]
    exact ih sound

/-- Whether an exchange is one that the producer and its resource can have taken part in. -/
def isObliging (resource : Resource) (source : Nat) : Exchange → Bool
  | ⟨.producerResource key, reply⟩ => key != source || reply == some resource
  | ⟨.poll key _, _⟩ | ⟨.shutdownProducer key, _⟩ | ⟨.connectProducer key, _⟩ => key != source
  | ⟨.beginWork own, reply⟩ | ⟨.commitWork own, reply⟩ | ⟨.rollbackWork own _, reply⟩ =>
    own.key != resource.key || reply.toBool
  | _ => true

/-- A service goes through nothing else. -/
theorem Serves.obliging {resource : Resource} {source : Nat} {service later : Service}
    {trace : List Exchange} (serves : Serves resource source service trace later) :
    ∀ exchange ∈ trace, isObliging resource source exchange = true := by
  -- One exchange after the other: the producer's own are given in the service, the others are not
  -- its.
  induction serves with
  | done service => simp
  | move moved rest ih => exact ih
  | offer rest ih => exact List.forall_mem_cons.mpr ⟨by simp [isObliging], ih⟩
  | begin same rest ih => exact List.forall_mem_cons.mpr ⟨Bool.or_true _, ih⟩
  | commit same given rest ih => exact List.forall_mem_cons.mpr ⟨Bool.or_true _, ih⟩
  | rollback same given rest ih => exact List.forall_mem_cons.mpr ⟨Bool.or_true _, ih⟩
  | @other service later trace exchange apart rest ih =>
    refine List.forall_mem_cons.mpr ⟨?_, ih⟩
    obtain ⟨call, reply⟩ := exchange
    cases call
    case producerResource key =>
      have different : key ≠ source := apart
      simp [isObliging, different]
    case poll key timeout | shutdownProducer key | connectProducer key =>
      exact bne_iff_ne.mpr apart
    case beginWork own | commitWork own | rollbackWork own cause =>
      exact Bool.or_eq_true_iff.mpr (.inl (bne_iff_ne.mpr apart))
    all_goals rfl

/-- A service can go through every trace of such exchanges. -/
theorem exists_serves {resource : Resource} {source : Nat} {trace : List Exchange}
    (service : Service)
    (obliging : ∀ exchange ∈ trace, isObliging resource source exchange = true) :
    ∃ later, Serves resource source service trace later := by
  induction trace generalizing service with
  | nil => exact ⟨service, .done service⟩
  -- The service goes through one exchange after the other, whatever it holds by then.
  | cons exchange rest ih =>
    obtain ⟨first, others⟩ := List.forall_mem_cons.mp obliging
    by_cases concerned : Concerns resource source exchange.call
    · -- What concerns the producer was answered as it answers.
      have told : ∀ {own : Resource} {reply : Except Condition Unit}, own.key = resource.key →
          (own.key != resource.key || reply.toBool) = true → reply = .ok () := by
        intro own reply same fine
        rw [same, bne_self_eq_false, Bool.false_or] at fine
        cases reply with
        | ok _ => rfl
        | error cause => cases fine
      obtain ⟨call, reply⟩ := exchange
      cases call
      -- The producer offered its resource,
      case producerResource key =>
        cases concerned
        obtain ⟨later, serves⟩ := ih service others
        simp only [isObliging, bne_self_eq_false, Bool.false_or, beq_iff_eq] at first
        exact first ▸ ⟨later, .offer serves⟩
      -- which began, committed or rolled back without a failure,
      case beginWork own =>
        obtain ⟨later, serves⟩ := ih service others
        exact told concerned first ▸ ⟨later, .begin concerned serves⟩
      case commitWork own =>
        obtain ⟨later, serves⟩ := ih _ others
        exact told concerned first ▸ ⟨later, .commit concerned (gives_settleAll _ _ _) serves⟩
      case rollbackWork own cause =>
        obtain ⟨later, serves⟩ := ih _ others
        exact told concerned first ▸ ⟨later, .rollback concerned (gives_settleAll _ _ _) serves⟩
      -- and the producer was asked for nothing else.
      case poll key timeout | shutdownProducer key | connectProducer key =>
        exact absurd concerned (bne_iff_ne.mp first)
      all_goals exact False.elim concerned
    · obtain ⟨later, serves⟩ := ih service others
      exact ⟨later, .other concerned serves⟩

end BatchFlow.Handoff
