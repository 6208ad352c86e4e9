import BatchFlow.Proofs.Adaptor.Tasks

/-! What the runs of an adaptor make of its producers: each run leaves them as it found them, as
long as no worker panics. -/

namespace BatchFlow

open Plan (Exchange)

namespace AdaptorTasks

/-- What the worker of a producer has yet to keep to, by what was known of the producer at first and
is known of it now. -/
def Keeps (key : Nat) (start known : Option Tie) : Option Duty → Prop
  | none => known = start
  | some (.going rest) =>
    rest.Observes (attendance key) (fun _ later => Worker.Idle later) known ∧
      (known = none → start = none)
  -- Nothing is known any more after a panic that did not interrupt a poll.
  | some (.panicked call) =>
    Worker.Held known ∧ (known = none → start = none ∨ call.isPoll = false)

/-- What is known of one producer during a run: where its handle stands, that its marks are in order
so far, that its worker keeps to its plan, and which panic has happened. -/
structure Attended (key : Nat) (start known : Option Tie) (tasks : AdaptorTasks) : Prop where
  told : ∀ tie, known = some tie → tie.lifecycle = tasks.handles key
  course : ∀ tie, start = some tie → ∃ attached,
    Mark.course? tie.attached (Mark.all key tasks.occurrences) = some attached ∧
      ∀ tied, known = some tied → tied.attached = attached
  keeps : Keeps key start known (tasks.workers key)
  faults : panics key tasks.occurrences = ((tasks.workers key).bind (·.fault?)).toList

/-- What is known of a run: of every producer, and of the adaptor itself. -/
structure Sound (adaptor : Adaptor) (start : Nat → Option Tie) (roll : Roll)
    (tasks : AdaptorTasks) : Prop where
  supervised : tasks.supervisor.Observes supervision adaptor.Settles roll
  begun : ∀ key, tasks.workers key ≠ none → key ∈ roll.begun ∧ ∃ source ∈ adaptor.sources,
    source.key = key
  ended : ∀ key ∈ roll.ended, ∃ duty exit, tasks.workers key = some duty ∧ duty.exit? = some exit
  shut : ∀ key ∈ roll.shut, key ∈ roll.ended
  attended : ∀ key, ∃ known, Attended key (start key) known tasks

variable {adaptor : Adaptor} {start : Nat → Option Tie} {roll : Roll} {tasks later : AdaptorTasks}
  {key : Nat} {known : Option Tie} {occurrence : Occurrence}

/-- What happens elsewhere leaves everything as it is that is known of a producer. -/
theorem Attended.elsewhere (attended : Attended key (start key) known tasks)
    (other : occurrence.call.tied? ≠ some key) (handle : later.handles key = tasks.handles key)
    (worker : later.workers key = tasks.workers key)
    (happened : later.occurrences = tasks.occurrences ++ [occurrence])
    (faultless : panics key [occurrence] = []) :
    Attended key (start key) known later where
  told tie same := handle ▸ attended.told tie same
  course tie same := by
    rw [happened, Mark.course?_other other]
    exact attended.course tie same
  keeps := worker ▸ attended.keeps
  faults := by rw [happened, worker, panics_append, faultless, attended.faults, List.append_nil]

/-- What becomes of a worker without a fault is in order, if it was in order for the producer and
the worker keeps to it. -/
theorem Attended.assign {next : Option Tie} {duty : Duty} {handles : Nat → Lifecycle}
    {supervisor : Plan (Except Refusal Report)}
    (attended : Attended key (start key) known tasks)
    (faultless : (tasks.workers key).bind (·.fault?) = none)
    (told : ∀ tie, next = some tie → tie.lifecycle = handles key)
    (course : ∀ first attached, start key = some first →
      (∀ tie, known = some tie → tie.attached = attached) →
      ∃ left, Mark.course? attached (Mark.all key [occurrence]) = some left ∧
        ∀ tie, next = some tie → tie.attached = left)
    (keeps : Keeps key (start key) next (some duty))
    (fault : panics key [occurrence] = duty.fault?.toList) :
    Attended key (start key) next
      ({ tasks with handles, supervisor }.assign key duty occurrence) where
  told := told
  course first same := by
    -- Whether or not the producer was connected before, the new mark goes on from there.
    obtain ⟨attached, before, agrees⟩ := attended.course first same
    obtain ⟨left, after, remains⟩ := course first attached same agrees
    refine ⟨left, ?_, remains⟩
    show Mark.course? _ (Mark.all key (tasks.occurrences ++ [occurrence])) = _
    rw [Mark.all_append, Mark.course?_append, before]
    exact after
  keeps := by
    rw [workers_assign_self]
    exact keeps
  faults := by
    show panics key (tasks.occurrences ++ [occurrence]) = _
    rw [panics_append, attended.faults, faultless, fault, workers_assign_self]
    rfl

/-- A run begins with what is known of its producers. -/
theorem opening_sound {handles : Nat → Lifecycle}
    (distinct : (adaptor.sources.map (·.key)).Nodup)
    (told : ∀ key tie, start key = some tie → tie.lifecycle = handles key) :
    Sound adaptor start .blank (opening adaptor handles) where
  supervised := adaptor.run_observes distinct
  begun _ works := absurd rfl works
  ended _ member := by cases member
  shut _ member := by cases member
  attended key := ⟨start key, {
    -- No marks yet, so that the producer is as connected as it was.
    told := told key
    course := fun tie same => ⟨tie.attached, rfl, fun tied also => by
      cases same.symm.trans also
      rfl⟩
    keeps := rfl
    faults := rfl }⟩

/-- A worker that may still go on was not waited for. -/
theorem Sound.not_ended {rest : Plan WorkerExit} (sound : Sound adaptor start roll tasks)
    (works : tasks.workers key = some (.going rest)) (unfinished : ∀ exit, rest ≠ .done exit) :
    key ∉ roll.ended := by
  -- Whoever was waited for is done or has panicked.
  intro member
  obtain ⟨duty, exit, same, ended⟩ := sound.ended key member
  cases works.symm.trans same
  cases rest with
  | done exit => exact unfinished exit rfl
  | _ => cases ended

/-- What the adaptor does itself concerns no producer. -/
theorem Sound.supervise {call : Call} {next : call.Reply → Plan (Except Refusal Report)}
    {reply : call.Reply} {handles : Nat → Lifecycle} (sound : Sound adaptor start roll tasks)
    (asks : tasks.supervisor = .ask call next) (aside : call.employs? = none)
    (changes : handlesAfter? tasks.handles ⟨call, reply⟩ = some handles) :
    Sound adaptor start (roll.after call)
      ({ tasks with handles }.goOn (next reply) ⟨call, reply⟩) := by
  have observes := sound.supervised
  rw [asks] at observes
  obtain ⟨⟨permitted, _, mayShut⟩, goesOn⟩ := observes
  -- A question about no worker leaves the workers alone, and one about no connection the rest.
  obtain ⟨begun, ended⟩ := Roll.after_workers aside roll
  refine ⟨goesOn reply _ rfl, ?_, ?_, ?_, fun key => ?_⟩
  · rw [begun]
    exact sound.begun
  · rw [ended]
    exact sound.ended
  · -- No producer is shut down before its worker has ended.
    intro key member
    rw [ended]
    cases call with
    | shutdownProducer producer =>
      rcases List.mem_append.mp member with old | new
      · exact sound.shut key old
      · cases List.mem_singleton.mp new
        exact mayShut key rfl
    | spawnWorker | collectExit => cases aside
    | _ => exact sound.shut key member
  · obtain ⟨known, attended⟩ := sound.attended key
    have untied : (Occurrence.exchange ⟨call, reply⟩).call.tied? ≠ some key := by
      simp [Occurrence.call, permitted]
    exact ⟨known, attended.elsewhere untied (handlesAfter?_other untied changes) rfl rfl rfl⟩

/-- Nobody works for a producer yet whose worker is about to begin, since no worker begins twice. -/
theorem Sound.absent {next : Unit → Plan (Except Refusal Report)}
    (sound : Sound adaptor start roll tasks)
    (asks : tasks.supervisor = .ask (.spawnWorker key) next) :
    tasks.workers key = none := by
  -- The rules of the adaptor let it begin a worker only if that has not begun.
  have observes := sound.supervised
  rw [asks] at observes
  by_contra present
  exact observes.1.2.1 key rfl (sound.begun key present).1

/-- A worker that begins takes its producer over as it is. -/
theorem Sound.begin {source : Source} {next : Unit → Plan (Except Refusal Report)}
    (sound : Sound adaptor start roll tasks) (member : source ∈ adaptor.sources)
    (fresh : Worker.Fresh (start source.key))
    (asks : tasks.supervisor = .ask (.spawnWorker source.key) next) :
    Sound adaptor start { roll with begun := roll.begun ++ [source.key] }
      ({ tasks with supervisor := next () }.assign source.key
        (.going (adaptor.workerFor source).run) (.exchange ⟨.spawnWorker source.key, ()⟩)) := by
  have absent := sound.absent asks
  have observes := sound.supervised
  rw [asks] at observes
  -- One obligation for each list of the roll, and one for every producer.
  refine ⟨observes.2 () _ rfl, fun key works => ?_, fun key member => ?_, sound.shut, fun key => ?_⟩
  · rcases eq_or_ne key source.key with rfl | other
    · exact ⟨by simp, source, member, rfl⟩
    · rw [workers_assign_of_ne other] at works
      obtain ⟨listed, employer⟩ := sound.begun key works
      exact ⟨by simp [listed], employer⟩
  · obtain ⟨duty, exit, works, ended⟩ := sound.ended key member
    have other : key ≠ source.key := by
      rintro rfl
      cases absent.symm.trans works
    exact ⟨duty, exit, (workers_assign_of_ne other ..).trans works, ended⟩
  · obtain ⟨known, attended⟩ := sound.attended key
    have untied : (Occurrence.exchange ⟨.spawnWorker source.key, ()⟩).call.tied? ≠ some key := by
      simp [Occurrence.call, Call.tied?]
    rcases eq_or_ne key source.key with rfl | other
    · -- What is known now is what was known at first, and with that the worker begins.
      have keeps := attended.keeps
      rw [absent] at keeps
      cases keeps
      have keeps : Keeps source.key (start source.key) (start source.key)
          (some (.going (adaptor.workerFor source).run)) :=
        ⟨(adaptor.workerFor source).run_observes fresh, id⟩
      exact ⟨start source.key, attended.assign (by simp [absent]) attended.told
        (fun first attached _ agrees => ⟨attached, rfl, agrees⟩) keeps rfl⟩
    · exact ⟨known, attended.elsewhere untied rfl (workers_assign_of_ne other ..) rfl rfl⟩

/-- Taking note of a worker that has ended changes nothing. -/
theorem Sound.collect {next : Option WorkerExit → Plan (Except Refusal Report)} {duty : Duty}
    {exit : Option WorkerExit} (sound : Sound adaptor start roll tasks)
    (asks : tasks.supervisor = .ask (.collectExit key) next)
    (begun : tasks.workers key = some duty) (ended : duty.exit? = some exit) :
    Sound adaptor start { roll with ended := roll.ended ++ [key] }
      (tasks.goOn (next exit) ⟨.collectExit key, exit⟩) := by
  have observes := sound.supervised
  rw [asks] at observes
  -- Only the list of those who were waited for grows, and by a worker that has ended.
  refine ⟨observes.2 exit _ rfl, sound.begun, fun other member => ?_, fun other member => ?_,
    fun other => ?_⟩
  · rcases List.mem_append.mp member with old | new
    · exact sound.ended other old
    · cases List.mem_singleton.mp new
      exact ⟨duty, exit, begun, ended⟩
  · exact List.mem_append_left _ (sound.shut other member)
  · obtain ⟨known, attended⟩ := sound.attended other
    exact ⟨known, attended.elsewhere (by simp [Occurrence.call, Call.tied?]) rfl rfl rfl rfl⟩

/-- What a worker does concerns its own producer at most. -/
theorem Sound.affects {call : Call} {next : call.Reply → Plan WorkerExit}
    (sound : Sound adaptor start roll tasks)
    (works : tasks.workers key = some (.going (.ask call next))) :
    ∀ other, call.tied? = some other → other = key := by
  -- The worker keeps to the rules of its own producer.
  obtain ⟨known, attended⟩ := sound.attended key
  have keeps := attended.keeps
  rw [works] at keeps
  exact keeps.1.1.1

/-- Whatever becomes of one worker, the rest of a run is as it was. -/
theorem Sound.replace {call : Call} {next : call.Reply → Plan WorkerExit} {duty : Duty}
    {handles : Nat → Lifecycle} (sound : Sound adaptor start roll tasks)
    (works : tasks.workers key = some (.going (.ask call next))) (asked : occurrence.call = call)
    (unmoved : ∀ other, call.tied? ≠ some other → handles other = tasks.handles other)
    (faultless : ∀ other, other ≠ key → panics other [occurrence] = [])
    (own : ∃ known, Attended key (start key) known
      ({ tasks with handles }.assign key duty occurrence)) :
    Sound adaptor start roll ({ tasks with handles }.assign key duty occurrence) := by
  have unended : key ∉ roll.ended := sound.not_ended works fun _ same => by cases same
  -- What is said of other producers is kept, and what is said of this one was given.
  refine ⟨sound.supervised, fun other present => ?_, fun other member => ?_, sound.shut,
    fun other => ?_⟩
  · rcases eq_or_ne other key with rfl | apart
    · exact sound.begun other (by simp [works])
    · rw [workers_assign_of_ne apart] at present
      exact sound.begun other present
  · obtain ⟨duty, exit, same, ended⟩ := sound.ended other member
    have apart : other ≠ key := by
      rintro rfl
      exact unended member
    exact ⟨duty, exit, (workers_assign_of_ne apart ..).trans same, ended⟩
  · rcases eq_or_ne other key with rfl | apart
    · exact own
    · obtain ⟨known, attended⟩ := sound.attended other
      have untied : call.tied? ≠ some other := fun tied => apart (sound.affects works other tied)
      exact ⟨known, attended.elsewhere (asked ▸ untied) (unmoved other untied)
        (workers_assign_of_ne apart ..) rfl (faultless other apart)⟩

/-- A worker that goes on attends to its producer. -/
theorem Sound.work {call : Call} {next : call.Reply → Plan WorkerExit} {reply : call.Reply}
    {handles : Nat → Lifecycle} (sound : Sound adaptor start roll tasks)
    (works : tasks.workers key = some (.going (.ask call next)))
    (changes : handlesAfter? tasks.handles ⟨call, reply⟩ = some handles) :
    Sound adaptor start roll
      ({ tasks with handles }.assign key (.going (next reply)) (.exchange ⟨call, reply⟩)) := by
  -- Only the worker's own producer has to be looked at.
  refine sound.replace works rfl (fun other untied => handlesAfter?_other untied changes)
    (fun _ _ => rfl) ?_
  obtain ⟨known, attended⟩ := sound.attended key
  have own := sound.affects works
  have keeps := attended.keeps
  rw [works] at keeps
  obtain ⟨⟨⟨_, admits⟩, goesOn⟩, grounds⟩ := keeps
  have faultless : (tasks.workers key).bind (·.fault?) = none := by rw [works]; rfl
  cases known with
  | none =>
    -- Nothing was known of the producer when the worker began.
    have unknown : start key = none := grounds rfl
    exact ⟨none, attended.assign faultless (by simp) (by simp [unknown])
      ⟨goesOn reply none rfl, grounds⟩ rfl⟩
  | some tie =>
    obtain ⟨tied, led, told⟩ := tie_after_of_changes own (attended.told tie rfl) changes
    refine ⟨some tied, attended.assign faultless (by simp [told])
      (fun first attached _ agrees => ?_)
      ⟨goesOn reply (some tied) (by simp [attendance, led]), by simp⟩ rfl⟩
    cases agrees tie rfl
    exact ⟨tied.attached, Mark.course?_of_after own (admits tie rfl) led, by simp⟩

/-- A panic during a poll leaves the producer held. -/
theorem Sound.panic {call : Call} {next : call.Reply → Plan WorkerExit}
    (sound : Sound adaptor start roll tasks)
    (works : tasks.workers key = some (.going (.ask call next))) :
    Sound adaptor start roll (tasks.assign key (.panicked call) (.panic key call)) := by
  refine sound.replace works rfl (fun _ _ => rfl)
    (fun _ apart => by simp [panics, apart.symm]) ?_
  obtain ⟨known, attended⟩ := sound.attended key
  have own := sound.affects works
  have keeps := attended.keeps
  rw [works] at keeps
  obtain ⟨⟨⟨_, admits⟩, _⟩, grounds⟩ := keeps
  have faultless : (tasks.workers key).bind (·.fault?) = none := by rw [works]; rfl
  -- Nothing is said of the producer after any other panic.
  refine ⟨if call.isPoll then known else none, attended.assign faultless (fun tie same => ?_)
    (fun first attached same agrees => ?_) ?_ (by simp [panics, Duty.fault?])⟩
  · exact attended.told tie (Option.ite_none_right_eq_some.mp same).2
  · cases known with
    | none => cases (grounds rfl).symm.trans same
    | some tie =>
      cases agrees tie rfl
      obtain ⟨left, next, polled⟩ := Mark.course?_of_panic own (admits tie rfl)
      refine ⟨left, next, fun tied same => ?_⟩
      obtain ⟨isPoll, same⟩ := Option.ite_none_right_eq_some.mp same
      cases same
      exact (polled isPoll).symm
  · -- A poll is admitted only by a producer that is held.
    cases call with
    | poll producer timeout => exact ⟨admits, fun same => .inl (grounds same)⟩
    | _ => exact ⟨by simp [Worker.Is, Call.isPoll], fun _ => .inr rfl⟩

/-- A run may begin with what is known of its producers. -/
def Fresh (start : Nat → Option Tie) : Prop := ∀ key, Worker.Fresh (start key)

/-- Whichever task takes a step, what is known of a run stays true. -/
theorem Sound.step (sound : Sound adaptor start roll tasks) (fresh : Fresh start)
    (step : Step adaptor tasks later) : ∃ roll, Sound adaptor start roll later := by
  -- One lemma for each kind of step.
  cases step with
  | supervise asks aside changes => exact ⟨_, sound.supervise asks aside changes⟩
  | begin member asks => exact ⟨_, sound.begin member (fresh _) asks⟩
  | collect asks begun ended => exact ⟨_, sound.collect asks begun ended⟩
  | work works changes => exact ⟨roll, sound.work works changes⟩
  | panic works => exact ⟨roll, sound.panic works⟩

/-- The worker of a producer has come to its end, if it has begun. -/
def Dismissed (key : Nat) (tasks : AdaptorTasks) : Prop :=
  ∀ duty, tasks.workers key = some duty → ∃ exit, duty.exit? = some exit

/-- When a run is over, so are its workers. -/
theorem Sound.dismissed {result : Except Refusal Report} (sound : Sound adaptor start roll tasks)
    (returned : tasks.supervisor = .done result) (key : Nat) : Dismissed key tasks := by
  intro duty works
  have settles := sound.supervised
  rw [returned] at settles
  obtain ⟨listed, source, member, rfl⟩ := sound.begun key (by simp [works])
  cases result with
  | ok report =>
    -- The report was made when every worker had been waited for.
    obtain ⟨other, exit, same, ended⟩ := sound.ended source.key (settles source member).1
    cases works.symm.trans same
    exact ⟨exit, ended⟩
  | error refusal => exact absurd listed (by rw [show roll.begun = [] from settles]; simp)

/-- A producer whose worker is over: no worker had begun, or it came to its end, or it panicked. -/
theorem Attended.outcome (attended : Attended key (start key) known tasks)
    (gone : Dismissed key tasks) :
    (panics key tasks.occurrences = [] ∧
      (known = start key ∨ Worker.Idle known ∧ (known = none → start key = none))) ∨
    ∃ call, panics key tasks.occurrences = [call] ∧ Worker.Held known ∧
      (known = none → start key = none ∨ call.isPoll = false) := by
  -- A worker that has come to its end was going and is done, or it has panicked.
  have keeps := attended.keeps
  rw [attended.faults]
  cases works : tasks.workers key with
  | none =>
    rw [works] at keeps
    exact .inl ⟨rfl, .inl keeps⟩
  | some duty =>
    rw [works] at keeps
    cases duty with
    | panicked call => exact .inr ⟨call, rfl, keeps⟩
    | going rest =>
      obtain ⟨exit, ended⟩ := gone _ works
      cases rest with
      | done exit => exact .inl ⟨rfl, .inr keeps⟩
      | _ => cases ended

/-- A producer is left as the next run may find it. -/
theorem Attended.left_fresh (attended : Attended key (start key) known tasks) (fresh : Fresh start)
    (gone : Dismissed key tasks) :
    Worker.Fresh known := by
  -- Either nothing was done with the producer, or it was left idle, or else held by a panic.
  intro tie same
  obtain ⟨_, unchanged | ⟨idle, _⟩⟩ | ⟨_, _, held, _⟩ := attended.outcome gone
  · exact fresh key tie (unchanged ▸ same)
  · exact .inl (idle tie same)
  · exact .inr (held tie same)

/-- How a producer is left when its worker is over: held after a panic during a poll, and otherwise
idle, unless no worker had begun. -/
theorem Attended.left {tie : Tie} (attended : Attended key (start key) known tasks)
    (knew : start key = some tie)
    (gone : Dismissed key tasks)
    (polls : ∀ call ∈ panics key tasks.occurrences, call.isPoll) :
    ∃ tied, known = some tied ∧ tied.lifecycle = tasks.handles key ∧
      Mark.course? tie.attached (Mark.all key tasks.occurrences) = some tied.attached ∧
      (panics key tasks.occurrences = [] ∧ (tied = tie ∨ tied = .idle) ∨
        panics key tasks.occurrences ≠ [] ∧ tied = .held) := by
  obtain ⟨attached, course, agrees⟩ := attended.course tie knew
  have outcome := attended.outcome gone
  cases same : known with
  | none =>
    -- This would have been the fault of another panic.
    exfalso
    obtain ⟨_, unchanged | ⟨_, grounds⟩⟩ | ⟨call, panicked, _, grounds⟩ := outcome
    · cases (unchanged.symm.trans same).symm.trans knew
    · cases (grounds same).symm.trans knew
    · obtain unknown | otherwise := grounds same
      · cases unknown.symm.trans knew
      · cases otherwise.symm.trans (polls call (by simp [panicked]))
  | some tied =>
    refine ⟨tied, rfl, attended.told tied same, by rw [course, agrees tied same], ?_⟩
    obtain ⟨quiet, unchanged | ⟨idle, _⟩⟩ | ⟨call, panicked, held, _⟩ := outcome
    · exact .inl ⟨quiet, .inl (Option.some.inj (same.symm.trans (unchanged.trans knew)))⟩
    · exact .inl ⟨quiet, .inr (idle tied same)⟩
    · exact .inr ⟨by simp [panicked], held tied same⟩

/-- A producer that was idle when the run began is settled at any time, or yet to be
disconnected. -/
theorem Attended.underway (attended : Attended key (start key) known tasks)
    (idle : start key = some .idle) :
    Mark.Settled (Mark.all key tasks.occurrences) ∨
      Mark.Unsettled (Mark.all key tasks.occurrences) := by
  -- Its marks so far are a course from a producer that was not connected.
  obtain ⟨attached, course, _⟩ := attended.course _ idle
  have shape := Mark.settled_of_course? course
  cases attached
  · exact .inl shape
  · exact .inr shape

/-- A producer that was idle when the run began is settled when it is over, unless a poll came to a
panic. -/
theorem Attended.settled (attended : Attended key (start key) known tasks)
    (idle : start key = some .idle) (gone : Dismissed key tasks) :
    (panics key tasks.occurrences = [] →
      Mark.Settled (Mark.all key tasks.occurrences) ∧ tasks.handles key = .stopped) ∧
    ((∀ call ∈ panics key tasks.occurrences, call.isPoll) → panics key tasks.occurrences ≠ [] →
      Mark.Unsettled (Mark.all key tasks.occurrences) ∧ tasks.handles key = .started) := by
  -- Either there was no panic, and the worker left the producer idle, or a poll was the last of it.
  refine ⟨fun quiet => ?_, fun polls loud => ?_⟩
  · obtain ⟨tied, _, told, course, ⟨_, same⟩ | ⟨loud, _⟩⟩ :=
      attended.left idle gone (by simp [quiet])
    · obtain rfl : tied = .idle := same.elim id id
      exact ⟨Mark.settled_of_course? course, told.symm⟩
    · exact absurd quiet loud
  · obtain ⟨tied, _, told, course, ⟨quiet, _⟩ | ⟨_, rfl⟩⟩ := attended.left idle gone polls
    · exact absurd quiet loud
    · exact ⟨Mark.settled_of_course? course, told.symm⟩

/-- A producer that was connected when the run began is not connected once more, before it has been
disconnected. -/
theorem Attended.not_connected {tie : Tie} (attended : Attended key (start key) known tasks)
    (knew : start key = some tie) (connected : tie.attached = true) :
    (Mark.all key tasks.occurrences).head? ≠ some .connected := by
  obtain ⟨_, course, _⟩ := attended.course tie knew
  -- A connection of something connected is no course at all.
  intro first
  obtain ⟨rest, same⟩ := List.head?_eq_some_iff.mp first
  rw [same, connected] at course
  cases course

/-- What is known of the producers when a run begins is what the earlier runs made of them. -/
theorem RunHistory.sound {earlier : List (List Occurrence)}
    (distinct : (adaptor.sources.map (·.key)).Nodup) (history : RunHistory adaptor earlier tasks) :
    ∃ start roll, Fresh start ∧ Sound adaptor start roll tasks ∧ ∀ key,
      ((∀ call ∈ panics key earlier.flatten, call.isPoll) → ∃ tie, start key = some tie ∧
        Mark.course? false (Mark.all key earlier.flatten) = some tie.attached) ∧
      (panics key earlier.flatten = [] → start key = some .idle) := by
  -- The induction is on the history, and what one run ends with is what the next one begins with.
  induction history with
  | start =>
    -- Before the first run no producer is attached, and nothing has been done.
    refine ⟨fun _ => some .idle, .blank, fun _ tie same => .inl (Option.some.inj same).symm,
      opening_sound distinct ?_, fun key => ⟨fun _ => ⟨.idle, rfl, rfl⟩, fun _ => rfl⟩⟩
    rintro key _ ⟨⟩
    rfl
  | step history step ih =>
    -- A step of the run that goes on changes what is known now, and not what it began with.
    obtain ⟨start, roll, fresh, sound, past⟩ := ih
    obtain ⟨roll, sound⟩ := sound.step fresh step
    exact ⟨start, roll, fresh, sound, past⟩
  | @again earlier tasks result history returned ih =>
    obtain ⟨start, roll, fresh, sound, past⟩ := ih
    -- For each producer, what is known of it at the end.
    choose known attended using sound.attended
    have gone := sound.dismissed returned
    refine ⟨known, .blank, fun key => (attended key).left_fresh fresh (gone key),
      opening_sound distinct fun key => (attended key).told, fun key => ?_⟩
    simp only [List.flatten_append, List.flatten_singleton, panics_append, Mark.all_append]
    refine ⟨fun polls => ?_, fun quiet => ?_⟩
    · -- The marks of the earlier runs lead to where this run began, and those of this run lead on.
      obtain ⟨before, now⟩ := List.forall_mem_append.mp polls
      obtain ⟨tie, knew, course⟩ := (past key).1 before
      obtain ⟨tied, same, _, further, _⟩ := (attended key).left knew (gone key) now
      exact ⟨tied, same, by rw [Mark.course?_append, course]; exact further⟩
    · -- A handle that nobody has panicked with is put back idle.
      obtain ⟨before, now⟩ := List.append_eq_nil_iff.mp quiet
      obtain ⟨tied, same, _, _, ⟨_, rfl | rfl⟩ | ⟨loud, _⟩⟩ :=
        (attended key).left ((past key).2 before) (gone key) (by simp [now])
      · exact same
      · exact same
      · exact absurd now loud

/-- As long as a worker does not panic, each run leaves its producer as it found it: never polled
unless it was connected, and disconnected as often as it was connected. A panic during a poll breaks
this. The run still ends, but the producer stays connected, and the next run does not connect it. -/
theorem RunHistory.producer_settled {earlier : List (List Occurrence)}
    (distinct : (adaptor.sources.map (·.key)).Nodup) (history : RunHistory adaptor earlier tasks)
    (key : Nat) :
    let past := earlier.flatten
    let now := tasks.occurrences
    -- Runs without a panic leave the producer settled.
    (panics key past = [] → Mark.Settled (Mark.all key past)) ∧
    -- A run that finds it settled: at any time, at its end, and at its end after such a panic.
    ((∀ call ∈ panics key past, call.isPoll) → Mark.Settled (Mark.all key past) →
      (Mark.Settled (Mark.all key now) ∨ Mark.Unsettled (Mark.all key now)) ∧
      ∀ result, tasks.supervisor = .done result →
        (panics key now = [] →
          Mark.Settled (Mark.all key now) ∧ tasks.handles key = .stopped) ∧
        ((∀ call ∈ panics key now, call.isPoll) → panics key now ≠ [] →
          Mark.Unsettled (Mark.all key now) ∧ tasks.handles key = .started)) ∧
    -- A run that finds it still connected.
    ((∀ call ∈ panics key past, call.isPoll) → ¬ Mark.Settled (Mark.all key past) →
      (Mark.all key now).head? ≠ some .connected) ∧
    -- Panic or not, no worker outlasts its run.
    ∀ result, tasks.supervisor = .done result → Dismissed key tasks := by
  dsimp only
  obtain ⟨start, roll, fresh, sound, past⟩ := history.sound distinct
  obtain ⟨polled, untroubled⟩ := past key
  obtain ⟨known, attended⟩ := sound.attended key
  have gone : ∀ result, tasks.supervisor = .done result → Dismissed key tasks :=
    fun _ returned => sound.dismissed returned key
  refine ⟨fun quiet => ?_, fun polls settled => ?_, fun polls unsettled => ?_, gone⟩
  · obtain ⟨tie, knew, course⟩ := polled (by simp [quiet])
    cases (untroubled quiet).symm.trans knew
    exact Mark.settled_of_course? course
  · -- A producer that is settled begins the run idle.
    obtain ⟨tie, knew, before⟩ := polled polls
    have idle : tie = .idle := by
      rcases fresh key tie knew with rfl | rfl
      · rfl
      · cases settled.course?.symm.trans before
    subst idle
    exact ⟨attended.underway knew, fun result returned =>
      attended.settled knew (gone result returned)⟩
  · -- A producer that is not settled begins the run connected.
    obtain ⟨tie, knew, before⟩ := polled polls
    refine attended.not_connected knew ?_
    cases detached : tie.attached with
    | true => rfl
    | false =>
      rw [detached] at before
      exact absurd (Mark.settled_of_course? before) unsettled

/-- Whose turn it is. -/
inductive Turn where
  | adaptor
  | worker (key : Nat)
  /-- The worker goes on, and is answered by a panic. -/
  | panic (key : Nat)

/-- Answers that are true of the handles, from producers that have nothing to poll yet. -/
def answer (handles : Nat → Lifecycle) : (call : Call) → call.Reply
  | .advance (.producer key) transition => ((handles key).advance transition).2
  | .isExhausted _ => false
  | .poll .. => .cancelled
  | .nextExit => ("", 1)
  | call => Plan.uneventful call

/-- One turn, if the task is not waiting for another one. -/
def turn? (adaptor : Adaptor) (tasks : AdaptorTasks) : Turn → Option AdaptorTasks
  | .adaptor =>
    match tasks.supervisor with
    | .ask (.spawnWorker key) next =>
      (adaptor.sources.find? (·.key = key)).map fun source =>
        { tasks with supervisor := next () }.assign source.key
          (.going (adaptor.workerFor source).run) (.exchange ⟨.spawnWorker source.key, ()⟩)
    | .ask (.collectExit key) next =>
      ((tasks.workers key).bind (·.exit?)).map fun exit =>
        tasks.goOn (next exit) ⟨.collectExit key, exit⟩
    | .ask call next =>
      let reply := answer tasks.handles call
      (handlesAfter? tasks.handles ⟨call, reply⟩).map fun handles =>
        { tasks with handles }.goOn (next reply) ⟨call, reply⟩
    | _ => none
  | .worker key =>
    match tasks.workers key with
    | some (.going (.ask call next)) =>
      let reply := answer tasks.handles call
      (handlesAfter? tasks.handles ⟨call, reply⟩).map fun handles =>
        { tasks with handles }.assign key (.going (next reply)) (.exchange ⟨call, reply⟩)
    | _ => none
  | .panic key =>
    match tasks.workers key with
    | some (.going (.ask call _)) => some (tasks.assign key (.panicked call) (.panic key call))
    | _ => none

/-- A turn is a step. -/
theorem step_of_turn? {turn : Turn} (taken : tasks.turn? adaptor turn = some later) :
    Step adaptor tasks later := by
  unfold turn? at taken
  cases turn with
  | adaptor =>
    dsimp only at taken
    split at taken
    · rename_i key next asks
      -- A source is found by its key, and a worker begins for it.
      obtain ⟨source, found, rfl⟩ := Option.map_eq_some_iff.mp taken
      obtain rfl : source.key = key := by simpa using List.find?_some found
      exact .begin (List.mem_of_find?_eq_some found) asks
    · rename_i key next asks
      -- The exit of a worker is collected once it has one.
      obtain ⟨exit, found, rfl⟩ := Option.map_eq_some_iff.mp taken
      obtain ⟨duty, begun, ended⟩ := Option.bind_eq_some_iff.mp found
      exact .collect asks begun ended
    · -- Neither of the two questions above, so it is not about a worker.
      rename_i call next notSpawn notCollect asks
      obtain ⟨handles, changes, rfl⟩ := Option.map_eq_some_iff.mp taken
      refine .supervise asks ?_ changes
      cases call with
      | spawnWorker key => exact absurd HEq.rfl (notSpawn key next rfl)
      | collectExit key => exact absurd HEq.rfl (notCollect key next rfl)
      | _ => rfl
    · cases taken
  | worker key =>
    dsimp only at taken
    split at taken
    · -- What a worker is answered has to agree with the handles.
      rename_i call next works
      obtain ⟨handles, changes, rfl⟩ := Option.map_eq_some_iff.mp taken
      exact .work works changes
    · cases taken
  | panic key =>
    dsimp only at taken
    split at taken
    · -- A panic needs nobody's permission.
      rename_i call next works
      cases taken
      exact .panic works
    · cases taken

/-- Every turn that is taken is part of the same history. -/
theorem RunHistory.turns {earlier : List (List Occurrence)} {turns : List Turn}
    (history : RunHistory adaptor earlier tasks)
    (taken : turns.foldlM (turn? adaptor) tasks = some later) :
    RunHistory adaptor earlier later := by
  -- By induction on the turns, from whatever state they begin in.
  induction turns generalizing tasks with
  | nil => cases taken; exact history
  | cons turn rest ih =>
    obtain ⟨next, first, further⟩ := Option.bind_eq_some_iff.mp taken
    exact ih (history.step (step_of_turn? first)) further

/-- Turns that can be taken, with something that can be checked when they are over. -/
theorem RunHistory.exists_turns {earlier : List (List Occurrence)}
    (history : RunHistory adaptor earlier tasks) (turns : List Turn) (check : AdaptorTasks → Bool)
    (checked : (turns.foldlM (turn? adaptor) tasks).any check = true) :
    ∃ later, RunHistory adaptor earlier later ∧ check later = true := by
  obtain ⟨later, taken, holds⟩ := (Option.any_eq_true _ _).mp checked
  exact ⟨later, history.turns taken, holds⟩

/-- Whether the run is over. -/
def isReturned (tasks : AdaptorTasks) : Bool :=
  match tasks.supervisor with
  | .done _ => true
  | _ => false

/-- A supervisor that was seen to be done has a result. -/
theorem returned_of_isReturned (returned : tasks.isReturned = true) :
    ∃ result, tasks.supervisor = .done result := by
  unfold isReturned at returned
  split at returned
  · exact ⟨_, ‹_›⟩
  · cases returned

/-- A single producer, whose batches go nowhere. -/
def lone : Adaptor where
  router := ⟨⟨[], [], ["inbox"], [], .builtIn⟩, .empty⟩
  sources := [⟨0, "inbox", "Inbox", false, ⟨0⟩, []⟩]
  options := .default
  allowance := ⟨1, 1⟩

/-- A run that begins, until its worker polls for the first time, and is brought down. -/
def interrupted : List Turn :=
  List.replicate 5 .adaptor ++ List.replicate 5 (.worker 0) ++ [.panic 0] ++
    List.replicate 10 .adaptor

/-- A run whose worker ends by itself. -/
def uninterrupted : List Turn :=
  List.replicate 5 .adaptor ++ List.replicate 9 (.worker 0) ++ List.replicate 10 .adaptor

/-- What is checked when the interrupted run is over. -/
def isInterrupted (tasks : AdaptorTasks) : Bool :=
  tasks.isReturned && Mark.all 0 tasks.occurrences = [.connected, .polled] &&
    (panics 0 tasks.occurrences).map (·.isPoll) = [true]

/-- The first poll panics, and the run ends with the producer connected. The second run polls it
without connecting it, and disconnects it. -/
theorem producer_settled_interrupted :
    ∃ first later, RunHistory lone [first] later ∧
      (Mark.all 0 first = [.connected, .polled] ∧
        Mark.all 0 later.occurrences = [.polled, .disconnected]) ∧
      Mark.Unsettled (Mark.all 0 first) ∧
      (Mark.all 0 later.occurrences).head? ≠ some .connected := by
  have distinct : (lone.sources.map (·.key)).Nodup := by decide
  obtain ⟨tasks, history, checked⟩ := (@RunHistory.start lone).exists_turns interrupted
    (fun tasks => tasks.isInterrupted &&
      (uninterrupted.foldlM (turn? lone) (opening lone tasks.handles)).any fun later =>
        Mark.all 0 later.occurrences = [.polled, .disconnected]) (by decide +kernel)
  -- Both runs were computed in one go, and are taken apart again.
  obtain ⟨interrupted, goesOn⟩ := Bool.and_eq_true_iff.mp checked
  obtain ⟨⟨returned, marks⟩, fault⟩ : (tasks.isReturned = true ∧
      Mark.all 0 tasks.occurrences = [.connected, .polled]) ∧
      (panics 0 tasks.occurrences).map (·.isPoll) = [true] := by
    simpa [isInterrupted] using interrupted
  obtain ⟨result, returned⟩ := returned_of_isReturned returned
  obtain ⟨call, panicked, isPoll⟩ := List.map_eq_singleton_iff.mp fault
  obtain ⟨later, next, remarks⟩ := (history.again returned).exists_turns uninterrupted _ goesOn
  -- The first run begins with the producer settled, and the second one does not.
  obtain ⟨_, first, _⟩ := history.producer_settled distinct 0
  obtain ⟨_, ended⟩ := first (by simp [panics]) ⟨[], rfl⟩
  have left := ((ended result returned).2 (by simp [panicked, isPoll]) (by simp [panicked])).1
  obtain ⟨_, _, second, _⟩ := next.producer_settled distinct 0
  have unsettled : ¬ Mark.Settled (Mark.all 0 tasks.occurrences) := by
    intro settled
    rw [marks] at settled
    cases settled.course?
  exact ⟨tasks.occurrences, later, next, ⟨marks, of_decide_eq_true remarks⟩, left,
    second (by simp [panicked, isPoll]) (by simpa using unsettled)⟩

end AdaptorTasks

end BatchFlow
