import BatchFlow.Proofs.Adaptor.Supervision
import Mathlib.Data.List.Induction
import Mathlib.Logic.Function.Basic

/-! The tasks of an adaptor, over any number of runs: its workers take steps in any order, and a
collaborator that panics takes its worker with it. -/

namespace BatchFlow

open Plan (Exchange)

/-- A poll, of any producer. -/
def Call.isPoll : Call → Bool
  | .poll .. => true
  | _ => false

/-- A worker that has begun. -/
inductive Duty where
  | going (rest : Plan WorkerExit)
  /-- It came to a sudden end, because what it asked last was answered by a panic. -/
  | panicked (call : Call)

/-- What a worker asked when it was brought down, if it was. -/
def Duty.fault? : Duty → Option Call
  | going _ => none
  | panicked call => some call

/-- How a worker ended, if it has: one that panicked has no exit to show. -/
def Duty.exit? : Duty → Option (Option WorkerExit)
  | going (.done exit) => some (some exit)
  | going _ => none
  | panicked _ => some none

/-- Something that happened during a run, to anybody. -/
inductive Occurrence where
  | exchange (asked : Exchange)
  /-- The worker of a producer asked this, and that was the end of it. -/
  | panic (producer : Nat) (call : Call)

/-- The question that was asked. -/
def Occurrence.call : Occurrence → Call
  | .exchange asked => asked.call
  | .panic _ call => call

/-- What the worker of a producer asked when it was brought down. -/
def panics (key : Nat) (occurrences : List Occurrence) : List Call :=
  occurrences.filterMap fun
    | .exchange _ => none
    | .panic producer call => if producer = key then some call else none

/-- What a producer goes through. -/
inductive Mark where
  | connected
  | polled
  | disconnected
deriving DecidableEq

namespace Mark

/-- What an occurrence is to a producer. A connection that fails is nothing. -/
def of? (key : Nat) : Occurrence → Option Mark
  | .exchange ⟨.connectProducer producer, .ok _⟩ => if producer = key then some connected else none
  | .exchange ⟨.poll producer _, _⟩ | .panic _ (.poll producer _) =>
    if producer = key then some polled else none
  | .exchange ⟨.disconnectProducer producer, _⟩ | .panic _ (.disconnectProducer producer) =>
    if producer = key then some disconnected else none
  | _ => none

/-- Whether the producer is connected after this, if it can happen to it. -/
def after? (attached : Bool) : Mark → Option Bool
  | connected => if attached then none else some true
  | polled => if attached then some true else none
  | disconnected => if attached then some false else none

/-- What a producer went through, in order. -/
def all (key : Nat) (occurrences : List Occurrence) : List Mark :=
  occurrences.filterMap (of? key)

/-- Whether the producer is connected after all this, if it can happen to it in this order. -/
def course? (attached : Bool) (marks : List Mark) : Option Bool :=
  marks.foldlM after? attached

/-- A connection that has not come to its end, with so many polls. -/
def opened (polls : Nat) : List Mark :=
  connected :: List.replicate polls polled

/-- A connection that has come to its end, with so many polls. -/
def session (polls : Nat) : List Mark :=
  opened polls ++ [disconnected]

/-- The producer was never polled unless it was connected, and it was disconnected once for every
time it was connected. -/
def Settled (marks : List Mark) : Prop :=
  ∃ sessions : List Nat, marks = sessions.flatMap session

/-- As before, but the producer has not been disconnected since it was last connected. -/
def Unsettled (marks : List Mark) : Prop :=
  ∃ (sessions : List Nat) (polls : Nat), marks = sessions.flatMap session ++ opened polls

end Mark

/-- The state of each handle after an exchange. What is said of a handle is true. -/
def handlesAfter? (handles : Nat → Lifecycle) : Exchange → Option (Nat → Lifecycle)
  | ⟨.advance (.producer key) transition, moved⟩ =>
    let (lifecycle, moves) := (handles key).advance transition
    if moved = moves then some (Function.update handles key lifecycle) else none
  | _ => some handles

/-- An adaptor during a run: the handles of its producers, what it has yet to do itself, the workers
that have begun, and what has happened in this run. -/
structure AdaptorTasks where
  handles : Nat → Lifecycle
  supervisor : Plan (Except Refusal Report)
  workers : Nat → Option Duty
  occurrences : List Occurrence

namespace AdaptorTasks

/-- A run that is about to begin. -/
def opening (adaptor : Adaptor) (handles : Nat → Lifecycle) : AdaptorTasks :=
  ⟨handles, adaptor.run, fun _ => none, []⟩

/-- The adaptor itself has gone on. -/
def goOn (tasks : AdaptorTasks) (rest : Plan (Except Refusal Report))
    (asked : Exchange) : AdaptorTasks :=
  { tasks with supervisor := rest, occurrences := tasks.occurrences ++ [.exchange asked] }

/-- Something has become of a worker. -/
def assign (tasks : AdaptorTasks) (key : Nat) (duty : Duty)
    (occurrence : Occurrence) : AdaptorTasks :=
  { tasks with
    workers := Function.update tasks.workers key (some duty)
    occurrences := tasks.occurrences ++ [occurrence] }

/-- What was assigned to a worker is what becomes of it. -/
@[simp] theorem workers_assign_self (tasks : AdaptorTasks) (key : Nat) (duty : Duty)
    (occurrence : Occurrence) : (tasks.assign key duty occurrence).workers key = some duty :=
  Function.update_self ..

/-- Every other worker is as it was. -/
theorem workers_assign_of_ne {key other : Nat} (apart : other ≠ key) (tasks : AdaptorTasks)
    (duty : Duty) (occurrence : Occurrence) :
    (tasks.assign key duty occurrence).workers other = tasks.workers other :=
  Function.update_of_ne apart ..

/-- One step of one of the tasks. Collaborators may answer anything at all. -/
inductive Step (adaptor : Adaptor) : AdaptorTasks → AdaptorTasks → Prop where
  /-- The adaptor itself goes on. -/
  | supervise {tasks : AdaptorTasks} {call : Call}
      {next : call.Reply → Plan (Except Refusal Report)} {reply : call.Reply}
      {handles : Nat → Lifecycle}
      (asks : tasks.supervisor = .ask call next) (aside : call.employs? = none)
      (changes : handlesAfter? tasks.handles ⟨call, reply⟩ = some handles) :
    Step adaptor tasks ({ tasks with handles }.goOn (next reply) ⟨call, reply⟩)
  /-- A worker begins. -/
  | begin {tasks : AdaptorTasks} {source : Source} {next : Unit → Plan (Except Refusal Report)}
      (member : source ∈ adaptor.sources)
      (asks : tasks.supervisor = .ask (.spawnWorker source.key) next) :
    Step adaptor tasks ({ tasks with supervisor := next () }.assign source.key
      (.going (adaptor.workerFor source).run) (.exchange ⟨.spawnWorker source.key, ()⟩))
  /-- A worker that has ended is taken note of. -/
  | collect {tasks : AdaptorTasks} {key : Nat}
      {next : Option WorkerExit → Plan (Except Refusal Report)} {duty : Duty}
      {exit : Option WorkerExit}
      (asks : tasks.supervisor = .ask (.collectExit key) next)
      (begun : tasks.workers key = some duty) (ended : duty.exit? = some exit) :
    Step adaptor tasks (tasks.goOn (next exit) ⟨.collectExit key, exit⟩)
  /-- A worker goes on. -/
  | work {tasks : AdaptorTasks} {key : Nat} {call : Call} {next : call.Reply → Plan WorkerExit}
      {reply : call.Reply} {handles : Nat → Lifecycle}
      (works : tasks.workers key = some (.going (.ask call next)))
      (changes : handlesAfter? tasks.handles ⟨call, reply⟩ = some handles) :
    Step adaptor tasks
      ({ tasks with handles }.assign key (.going (next reply)) (.exchange ⟨call, reply⟩))
  /-- A worker is brought down by a panic, and whatever it would have gone on with is lost. -/
  | panic {tasks : AdaptorTasks} {key : Nat} {call : Call} {next : call.Reply → Plan WorkerExit}
      (works : tasks.workers key = some (.going (.ask call next))) :
    Step adaptor tasks (tasks.assign key (.panicked call) (.panic key call))

/-- One run after the other, on producers that were stopped at first: what happened in the runs that
are over, and how far the present one has come. -/
inductive RunHistory (adaptor : Adaptor) : List (List Occurrence) → AdaptorTasks → Prop where
  | start : RunHistory adaptor [] (opening adaptor fun _ => .stopped)
  | step {earlier : List (List Occurrence)} {tasks later : AdaptorTasks}
      (history : RunHistory adaptor earlier tasks) (step : Step adaptor tasks later) :
    RunHistory adaptor earlier later
  -- The handles outlast a run, and nothing else does.
  | again {earlier : List (List Occurrence)} {tasks : AdaptorTasks} {result : Except Refusal Report}
      (history : RunHistory adaptor earlier tasks) (returned : tasks.supervisor = .done result) :
    RunHistory adaptor (earlier ++ [tasks.occurrences]) (opening adaptor tasks.handles)

end AdaptorTasks

/-- The panics of two stretches of a run are those of the one and then those of the other. -/
@[simp] theorem panics_append (key : Nat) (first rest : List Occurrence) :
    panics key (first ++ rest) = panics key first ++ panics key rest :=
  List.filterMap_append

namespace Mark

variable {key : Nat}

/-- So are the marks. -/
@[simp] theorem all_append (key : Nat) (first rest : List Occurrence) :
    all key (first ++ rest) = all key first ++ all key rest :=
  List.filterMap_append

/-- A course through two stretches is one through the first, and on through the second. -/
theorem course?_append (attached : Bool) (first rest : List Mark) :
    course? attached (first ++ rest) = (course? attached first).bind (course? · rest) :=
  List.foldlM_append

/-- The course of a producer that was not connected at first. -/
theorem settled_of_course? {marks : List Mark} {attached : Bool}
    (course : course? false marks = some attached) :
    if attached then Unsettled marks else Settled marks := by
  -- The induction is on the latest mark, which opens, prolongs or closes the last session.
  induction marks using List.reverseRecOn generalizing attached with
  | nil =>
    cases course
    exact ⟨[], rfl⟩
  | append_singleton earlier latest ih =>
    rw [course?_append] at course
    obtain ⟨before, led, next⟩ := Option.bind_eq_some_iff.mp course
    have shape := ih led
    cases before with
    | false =>
      -- Nothing but a connection can come next.
      obtain ⟨sessions, rfl⟩ := shape
      cases latest <;> cases next
      exact ⟨sessions, 0, rfl⟩
    | true =>
      -- One poll more, or the end of the session.
      obtain ⟨sessions, polls, rfl⟩ := shape
      cases latest <;> cases next
      · exact ⟨sessions, polls + 1, by simp [opened, List.replicate_succ']⟩
      · exact ⟨sessions ++ [polls], by simp [session]⟩

/-- A whole connection takes a producer from detached to detached, whatever the number of polls. -/
theorem course?_session (polls : Nat) : course? false (session polls) = some false := by
  -- A poll needs the producer attached, and leaves it so.
  have stays : course? true (List.replicate polls polled) = some true := by
    induction polls with
    | zero => rfl
    | succ polls ih => simpa [List.replicate_succ, course?, after?] using ih
  rw [session, course?_append, show course? false (opened polls) = some true from stays]
  rfl

/-- A settled producer is not connected. -/
theorem Settled.course? {marks : List Mark} (settled : Settled marks) :
    course? false marks = some false := by
  obtain ⟨sessions, rfl⟩ := settled
  -- One connection after the other, each from where the last one left the producer.
  induction sessions with
  | nil => rfl
  | cons polls rest ih => rw [List.flatMap_cons, course?_append, course?_session]; exact ih

/-- Only what is asked about a producer's own connection means anything to it. -/
theorem tied_of_of? {occurrence : Occurrence} {mark : Mark}
    (marked : of? key occurrence = some mark) : occurrence.call.tied? = some key := by
  unfold of? at marked
  split at marked
  -- What is marked is named by the question in every case.
  all_goals
    first
    | (obtain ⟨rfl, _⟩ := Option.ite_none_right_eq_some.mp marked; rfl)
    | cases marked

/-- What happens to another producer leaves the course of this one as it is. -/
theorem course?_other {attached : Bool} {occurrences : List Occurrence} {occurrence : Occurrence}
    (other : occurrence.call.tied? ≠ some key) :
    course? attached (all key (occurrences ++ [occurrence])) =
      course? attached (all key occurrences) := by
  -- It leaves no mark on this one.
  have unmarked : of? key occurrence = none := by
    cases marked : of? key occurrence with
    | none => rfl
    | some mark => exact absurd (tied_of_of? marked) other
  simp [all, unmarked]

/-- What happens to a producer next is in order, if it was admitted. -/
theorem course?_of_after {tie tied : Tie} {call : Call} {reply : call.Reply}
    (own : ∀ other, call.tied? = some other → other = key) (admitted : tie.Admits call)
    (led : tie.after? ⟨call, reply⟩ = some tied) :
    course? tie.attached (all key [.exchange ⟨call, reply⟩]) = some tied.attached := by
  -- Three questions leave a mark, and each of them was admitted where the mark is in order.
  cases call with
  | advance component transition =>
    cases component with
    | producer producer =>
      obtain ⟨_, same⟩ := Option.ite_none_right_eq_some.mp led
      cases same
      rfl
    | _ => cases led; rfl
  | connectProducer producer =>
    cases own producer rfl
    cases admitted
    -- A connection that fails leaves no mark, and the producer as it was.
    cases reply with
    | error cause => cases led; rfl
    | ok _ => cases led; simp [all, of?, course?, after?]
  | poll producer timeout =>
    cases own producer rfl
    cases admitted
    cases led
    simp [all, of?, course?, after?, Tie.held]
  | disconnectProducer producer =>
    cases own producer rfl
    cases admitted
    cases led
    simp [all, of?, course?, after?]
  | _ => cases led; rfl

/-- A panic is in order as well, if what was asked was admitted. After a poll, the producer is as
connected as before. -/
theorem course?_of_panic {tie : Tie} {call : Call}
    (own : ∀ other, call.tied? = some other → other = key) (admitted : tie.Admits call) :
    ∃ attached, course? tie.attached (all key [.panic key call]) = some attached ∧
      (call.isPoll → attached = tie.attached) := by
  -- A panic leaves a mark only in a poll or at the end of a connection.
  cases call with
  | poll producer timeout =>
    cases own producer rfl
    cases admitted
    exact ⟨true, by simp [all, of?, course?, after?, Tie.held], fun _ => rfl⟩
  | disconnectProducer producer =>
    cases own producer rfl
    cases admitted
    exact ⟨false, by simp [all, of?, course?, after?], fun polled => by cases polled⟩
  | _ => exact ⟨tie.attached, rfl, fun _ => rfl⟩

end Mark

section Handles

variable {key : Nat} {handles changed : Nat → Lifecycle} {call : Call} {reply : call.Reply}

/-- Only the handle that a question is about may change. -/
theorem handlesAfter?_other (other : call.tied? ≠ some key)
    (changes : handlesAfter? handles ⟨call, reply⟩ = some changed) : changed key = handles key := by
  -- Only a change of a lifecycle changes a handle, and only its own.
  cases call with
  | advance component transition =>
    cases component with
    | producer producer =>
      obtain ⟨_, same⟩ := Option.ite_none_right_eq_some.mp changes
      cases same
      exact Function.update_of_ne (fun same => other (by rw [same]; rfl)) _ _
    | _ => cases changes; rfl
  | _ => cases changes; rfl

/-- What is known of a producer stays true of its handle. -/
theorem tie_after_of_changes {tie : Tie} (own : ∀ other, call.tied? = some other → other = key)
    (told : tie.lifecycle = handles key)
    (changes : handlesAfter? handles ⟨call, reply⟩ = some changed) :
    ∃ tied, tie.after? ⟨call, reply⟩ = some tied ∧ tied.lifecycle = changed key := by
  cases call with
  | advance component transition =>
    cases component with
    | producer producer =>
      cases own producer rfl
      -- Both follow the same guarded change, from the same state.
      obtain ⟨lifecycle, attached⟩ := tie
      subst told
      obtain ⟨moved, same⟩ := Option.ite_none_right_eq_some.mp changes
      cases same
      exact ⟨_, Option.ite_none_right_eq_some.mpr ⟨moved, rfl⟩, by rw [Function.update_self]⟩
    | _ => cases changes; exact ⟨tie, rfl, told⟩
  | connectProducer producer =>
    cases changes
    cases reply
    · exact ⟨tie, rfl, told⟩
    · exact ⟨_, rfl, told⟩
  | disconnectProducer producer => cases changes; exact ⟨_, rfl, told⟩
  | _ => cases changes; exact ⟨tie, rfl, told⟩

end Handles

end BatchFlow
