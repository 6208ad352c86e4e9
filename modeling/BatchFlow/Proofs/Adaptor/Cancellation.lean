import BatchFlow.Proofs.Adaptor.FailFast
import BatchFlow.Proofs.Adaptor.Interleaving
import BatchFlow.Proofs.Worker.RoutedBatch

/-! Failing fast, an adaptor cancels its run for the first failure that it is told of. The other
workers go on to the end of the batch that they are about, or of the one that they are just being
given, and end there. Nobody else is told of it, not even in the next run. -/

namespace BatchFlow

open Plan (Exchange Passes)

/-- What tells that a run was cancelled is asked about the run, and does not open it. -/
theorem Plan.Exchange.uncalm_of_tellsCancelled (exchange : Exchange)
    (tells : exchange.tellsCancelled = true) :
    exchange.call.isCalm = false ∧ exchange.call ≠ .openRun := by
  obtain ⟨call, reply⟩ := exchange
  -- There are three questions whose answers tell so.
  cases call with
  | isCancelled | pause | poll => exact ⟨rfl, nofun⟩
  | _ => cases tells

namespace Setting

variable {setting : Setting}

/-- Whoever is told that the run was cancelled is told the truth. -/
theorem isCancelled_of_bears {exchange : Exchange} (truth : setting.bears exchange = true)
    (tells : exchange.tellsCancelled = true) : setting.isCancelled = true := by
  obtain ⟨call, reply⟩ := exchange
  -- A look at the run, a pause and a poll can tell of it, and nothing else.
  cases call with
  | isCancelled =>
    cases tells
    simpa [bears] using truth
  | pause delay =>
    cases tells
    simpa [bears, Plan.Exchange.tellsCancelled] using truth
  | poll key timeout =>
    cases reply with
    | cancelled => simpa [bears, Plan.Exchange.tellsCancelled] using truth
    | _ => cases tells
  | _ => cases tells

/-- A run is cancelled when it is cancelled, and until another one is opened. -/
theorem after_cancelled {call : Call} (cancelled : (setting.after call).cancelled = true) :
    call = .cancelRun ∨ call ≠ .openRun ∧ setting.cancelled = true := by
  -- Nothing else changes whether the run is cancelled.
  cases call with
  | cancelRun => exact .inl rfl
  | openRun => cases cancelled
  | _ => exact .inr ⟨by simp, cancelled⟩

/-- An adaptor that is stopped was so before, or has been stopped since. -/
theorem stopped_of_heed {journal : List Deed}
    (stopped : (journal.foldl heed setting).stopped = true) :
    setting.stopped = true ∨ .stopped ∈ journal := by
  -- Only the stop itself stops an adaptor, so that either it is in the journal or nothing happened.
  induction journal generalizing setting with
  | nil => exact .inl stopped
  | cons deed rest ih =>
    rcases ih stopped with before | since
    · cases deed with
      | asked task exchange =>
        refine .inl ?_
        obtain ⟨call, reply⟩ := exchange
        cases call <;> exact before
      | panicked => exact .inl before
      | stopped => exact .inr List.mem_cons_self
    · exact .inr (List.mem_cons_of_mem _ since)

/-- A run that is cancelled was cancelled since the beginning, or else no run was opened. -/
theorem cancelled_of_heed {journal : List Deed}
    (cancelled : (journal.foldl heed setting).cancelled = true) :
    (∃ task exchange, .asked task exchange ∈ journal ∧ exchange.call = .cancelRun) ∨
      setting.cancelled = true ∧
        ∀ task exchange, .asked task exchange ∈ journal → exchange.call ≠ .openRun := by
  -- By induction from the first deed: what comes last decides, as long as it is about the run at
  -- all.
  induction journal generalizing setting with
  | nil => exact .inr ⟨cancelled, by simp⟩
  | cons deed rest ih =>
    rcases ih cancelled with ⟨task, exchange, listed, same⟩ | ⟨before, unopened⟩
    · exact .inl ⟨task, exchange, List.mem_cons_of_mem _ listed, same⟩
    · cases deed with
      | asked task exchange =>
        rcases after_cancelled before with cancels | ⟨apart, before⟩
        · exact .inl ⟨task, exchange, List.mem_cons_self, cancels⟩
        · refine .inr ⟨before, fun other asked listed => ?_⟩
          rcases List.mem_cons.mp listed with same | later
          · cases same
            exact apart
          · exact unopened other asked later
      | panicked | stopped =>
        refine .inr ⟨before, fun other asked listed => ?_⟩
        rcases List.mem_cons.mp listed with same | later
        · cases same
        · exact unopened other asked later

/-- A run that is cancelled stays so, as long as no other one is opened. -/
theorem isCancelled_heed {journal : List Deed} (cancelled : setting.isCancelled = true)
    (unopened : ∀ task exchange, .asked task exchange ∈ journal → exchange.call ≠ .openRun) :
    (journal.foldl heed setting).isCancelled = true := by
  -- Of all that can be done, only another opening would take the cancellation back.
  induction journal generalizing setting with
  | nil => exact cancelled
  | cons deed rest ih =>
    refine ih ?_ fun task exchange listed => unopened task exchange (List.mem_cons_of_mem _ listed)
    cases deed with
    | asked task exchange =>
      have apart := unopened task exchange List.mem_cons_self
      obtain ⟨call, reply⟩ := exchange
      cases call with
      | openRun => exact absurd rfl apart
      | cancelRun => rfl
      | _ => exact cancelled
    | panicked => exact cancelled
    | stopped => simp [heed, isCancelled]

end Setting

namespace RunState

variable {adaptor : Adaptor} {setting : Setting} {state later : RunState} {before after : List Deed}
  {exchange : Exchange}

/-- What anybody was told of the setting was true at the time. -/
theorem Reachable.truthful {task : Task} (reachable : Reachable adaptor setting state)
    (done : state.journal = before ++ .asked task exchange :: after) :
    (before.foldl Setting.heed setting).bears exchange = true := by
  -- The setting before the exchange is the one in which the step was taken that did it.
  obtain ⟨earlier, later, reached, rfl, step, grown⟩ := reachable.split done
  rw [← reached.heeded]
  cases task with
  | adaptor => exact (step.asked_adaptor grown).2.1
  | worker key => exact (step.asked_worker grown).2

/-- What the adaptor of a run asks keeps to the rules about failures. -/
theorem Reachable.follows_failFastRules (reachable : Reachable adaptor setting state) :
    ∃ stage, Passes (failFastRules adaptor.options.failFast).Grants .off
      (own .adaptor state.journal)
      stage := by
  -- What the adaptor has asked is part of its run, which keeps to the rules as a whole.
  obtain ⟨stage, passes, _⟩ :=
    adaptor.run_observes_failFastRules.reaches_of_total (failFastRules_total _) reachable.led
  exact ⟨stage, passes⟩

/-- Where the adaptor stood before and after it was answered. -/
theorem Reachable.follows_failFastRules_at (reachable : Reachable adaptor setting state)
    {first rest : List Exchange} (done : own .adaptor state.journal = first ++ exchange :: rest) :
    ∃ stage middle last, Passes (failFastRules adaptor.options.failFast).Grants .off first stage ∧
      (failFastRules adaptor.options.failFast).Grants stage exchange middle ∧
      Passes (failFastRules adaptor.options.failFast).Grants middle rest last := by
  -- The trace of the adaptor passes through the exchange, with a state of the rules on either side.
  obtain ⟨last, passes⟩ := reachable.follows_failFastRules
  rw [done] at passes
  obtain ⟨stage, past, future⟩ := Plan.passes_append_iff.mp passes
  cases future with
  | next granted further => exact ⟨stage, _, last, past, granted, further⟩

/-- A run in which a worker has begun was opened. -/
theorem Reachable.opened_of_worker (distinct : (adaptor.sources.map (·.key)).Nodup)
    (reachable : Reachable adaptor setting state) {key : Nat} (works : state.workers key ≠ none) :
    ∃ opening ∈ own .adaptor state.journal, opening.call = .openRun := by
  -- A worker that has begun is in the roll, and so the adaptor has begun it.
  obtain ⟨stage, passes⟩ := reachable.follows_failFastRules
  obtain ⟨begun, _⟩ := (reachable.sound distinct).begun key works
  obtain ⟨exchange, listed, same⟩ := (Roll.mem_of key _).1.mp begun
  exact failFastRules_opened passes ⟨exchange, listed, by rw [same]; rfl⟩

/-- The adaptor cancels its run only where failing fast, and only for a failure it was told of. -/
theorem Reachable.cancels_for_failure (reachable : Reachable adaptor setting state)
    {first rest : List Exchange} (done : own .adaptor state.journal = first ++ exchange :: rest)
    (cancels : exchange.call = .cancelRun) :
    adaptor.options.failFast = true ∧ ∃ failure ∈ first, failure.isFailure = true := by
  -- Neither before the run is opened nor while there is no failure do the rules permit it.
  obtain ⟨stage, middle, last, past, ⟨permitted, _⟩, _⟩ := reachable.follows_failFastRules_at done
  have up : ¬ stage.IsCalm := by
    rintro (rfl | rfl)
    · rcases permitted with calm | same
      · simp [cancels, Call.isCalm] at calm
      · simp [cancels] at same
    · rcases permitted with calm | same | ⟨key, same⟩
      · simp [cancels, Call.isCalm] at calm
      · simp [cancels] at same
      · simp [cancels] at same
  exact (failFastRules_grounded past up).resolve_left fun calm => calm (.inl rfl)

/-- Whoever is told that the run was cancelled learns of something that happened in this run, unless
the adaptor was stopped. -/
theorem Reachable.told_cancelled (distinct : (adaptor.sources.map (·.key)).Nodup)
    (reachable : Reachable adaptor setting state) {task : Task}
    (done : state.journal = before ++ .asked task exchange :: after)
    (tells : exchange.tellsCancelled = true) :
    (setting.stopped = true ∨ .stopped ∈ before) ∨ adaptor.options.failFast = true ∧
      ∃ cancelling ∈ own .adaptor before, cancelling.call = .cancelRun := by
  have cancelled := Setting.isCancelled_of_bears (reachable.truthful done) tells
  obtain ⟨earlier, later, reached, rfl, step, grown⟩ := reachable.split done
  -- The run is seen cancelled for one of two reasons, and each is traced back to who caused it.
  rcases Bool.or_eq_true_iff.mp cancelled with cancelled | stopped
  · rcases Setting.cancelled_of_heed cancelled with
      ⟨asker, cancelling, listed, same⟩ | ⟨_, unopened⟩
    · -- A worker cancels nothing.
      cases asker with
      | adaptor =>
        obtain ⟨first, rest, split⟩ := List.append_of_mem (mem_own.mpr listed)
        have fast := (reached.cancels_for_failure split same).1
        exact .inr ⟨fast, cancelling, mem_own.mpr listed, same⟩
      | worker key =>
        have ordinary := reached.ordinary distinct listed
        rw [same] at ordinary
        cases ordinary
    · -- The run has been opened by then, whoever asks.
      have opened : ∃ opening ∈ own .adaptor earlier.journal, opening.call = .openRun := by
        cases task with
        | adaptor =>
          have uncalm := exchange.uncalm_of_tellsCancelled tells
          obtain ⟨stage, passes⟩ := (reached.step step).follows_failFastRules
          simp only [grown, own_append, own_asked, if_true, own_nil] at passes
          obtain ⟨opening, listed, same⟩ :=
            failFastRules_opened passes ⟨exchange, by simp, uncalm.1⟩
          rcases List.mem_append.mp listed with sooner | now
          · exact ⟨opening, sooner, same⟩
          · cases List.mem_singleton.mp now
            exact absurd same uncalm.2
        | worker key =>
          obtain ⟨⟨next, works⟩, _⟩ := step.asked_worker grown
          have present : earlier.workers key ≠ none := by simp [works]
          exact reached.opened_of_worker distinct present
      obtain ⟨opening, listed, same⟩ := opened
      exact absurd same (unopened .adaptor opening (mem_own.mp listed))
  · exact .inl (Setting.stopped_of_heed stopped)

/-- A run that the adaptor knows to be cancelled, since it asked about it or cancelled it, stays
cancelled. -/
theorem Reachable.stays_cancelled (distinct : (adaptor.sources.map (·.key)).Nodup)
    (reachable : Reachable adaptor setting state)
    (done : state.journal = before ++ .asked .adaptor exchange :: after)
    (knows : exchange = ⟨.isCancelled, true⟩ ∨ exchange.call = .cancelRun) {first rest : List Deed}
    (split : after = first ++ rest) :
    ((before ++ .asked .adaptor exchange :: first).foldl Setting.heed setting).isCancelled =
      true := by
  -- It is cancelled right after the exchange,
  have cancelled : (((before.foldl Setting.heed setting).heed
      (.asked .adaptor exchange))).isCancelled = true := by
    rcases knows with rfl | cancels
    · exact Setting.isCancelled_of_bears (reachable.truthful done) rfl
    · simp [Setting.heed, cancels, Setting.after, Setting.isCancelled]
  rw [List.foldl_append, List.foldl_cons]
  refine Setting.isCancelled_heed cancelled fun task opening listed => ?_
  -- and no other run is opened later.
  have member : .asked task opening ∈ state.journal := by
    rw [done, split]
    simp [listed]
  cases task with
  | worker key =>
    intro opens
    have ordinary := reachable.ordinary distinct member
    rw [opens] at ordinary
    cases ordinary
  | adaptor =>
    -- The exchange of the adaptor stands where the rules have the run open, and they open none
    -- again.
    have asked : own .adaptor state.journal =
        own .adaptor before ++ exchange :: own .adaptor after := by
      rw [done, own_append, own_asked, if_pos rfl]
    obtain ⟨stage, middle, last, past, granted, future⟩ := reachable.follows_failFastRules_at asked
    have on : stage ≠ .off := by
      rintro rfl
      rcases granted.1 with calm | opens
      · rcases knows with rfl | cancels
        · cases calm
        · rw [cancels] at calm
          cases calm
      · rcases knows with rfl | cancels
        · cases opens
        · rw [cancels] at opens
          cases opens
    obtain ⟨_, unopened⟩ := failFastRules_opens_once (.next granted future) on
    refine unopened opening (List.mem_cons_of_mem _ (mem_own.mpr ?_))
    rw [split]
    exact List.mem_append_left _ listed

/-- Failing fast, an adaptor that was told of a failure asks about its run, reports and cancels it
before it does anything else. -/
theorem Reachable.heeds_failure (distinct : (adaptor.sources.map (·.key)).Nodup)
    (reachable : Reachable adaptor setting state) (fast : adaptor.options.failFast = true)
    {first rest : List Exchange} (done : own .adaptor state.journal = first ++ exchange :: rest)
    (failed : exchange.isFailure = true) :
    (∀ other ∈ rest, other.call = .isCancelled ∨ ∃ event, other.call = .log event) ∨
      state.setting.isCancelled = true := by
  obtain ⟨stage, middle, last, past, ⟨permitted, led⟩, future⟩ :=
    reachable.follows_failFastRules_at done
  obtain ⟨call, reply⟩ := exchange
  cases call with
  | nextExit =>
    -- The next exit is waited for only when there is no failure to be dealt with.
    have quiet : stage = .quiet := by
      cases stage with
      | quiet => rfl
      | off => rcases permitted with calm | opens <;> contradiction
      | raised => cases permitted
      | unheeded => rcases permitted with same | ⟨_, same⟩ <;> cases same
    subst quiet
    obtain rfl : .raised = middle := by simpa [failFastRules, failed, fast] using led
    refine (failFastRules_heeded future (by rintro (same | same) <;> cases same)).imp_right ?_
    rintro ⟨known, listed, knows⟩
    -- The run was cancelled at that moment, and has been since.
    have member : known ∈ own .adaptor state.journal := by
      rw [done]
      exact List.mem_append_right _ (List.mem_cons_of_mem _ listed)
    obtain ⟨before, after, split⟩ := List.append_of_mem (mem_own.mp member)
    rw [reachable.heeded, split]
    exact reachable.stays_cancelled distinct split knows (List.append_nil after).symm
  | _ => cases failed

/-- Once the adaptor has cancelled its run, a worker polls at most once more, and routes at most one
more batch. -/
theorem Reachable.at_most_one_more (distinct : (adaptor.sources.map (·.key)).Nodup)
    (reachable : Reachable adaptor setting state)
    (done : state.journal = before ++ .asked .adaptor exchange :: after)
    (cancels : exchange.call = .cancelRun) (key : Nat) :
    (own (.worker key) after).countP (·.call.isPoll) ≤ 1 ∧
      (own (.worker key) after).countP (·.beginsRouting) ≤ 1 := by
  obtain ⟨last, passes⟩ := reachable.watched distinct key
  have asked : own (.worker key) state.journal =
      own (.worker key) before ++ own (.worker key) after := by
    simp [done]
  rw [asked] at passes
  obtain ⟨check, _, future⟩ := Plan.passes_append_iff.mp passes
  -- Whenever the worker looks at the run from now on, it finds it cancelled.
  have looks : (⟨.isCancelled, false⟩ : Exchange) ∉ own (.worker key) after := by
    intro listed
    obtain ⟨first, rest, split⟩ := List.append_of_mem (mem_own.mp listed)
    have cancelled := reachable.stays_cancelled distinct done (.inr cancels) split
    have later : state.journal = (before ++ .asked .adaptor exchange :: first) ++
        .asked (.worker key) ⟨.isCancelled, false⟩ :: rest := by
      simp [done, split]
    have truth : (false == _) = true := reachable.truthful later
    rw [cancelled] at truth
    cases truth
  -- What the rules still allow such a worker is one poll and one batch, wherever it stands.
  obtain ⟨polls, routings⟩ := future.spends looks
  have few : check.polls ≤ 1 ∧ check.routings ≤ 1 := by cases check <;> decide
  omega

/-- Whoever the adaptor was told of has come to its end, in the way that it was told. -/
theorem Reachable.notices (distinct : (adaptor.sources.map (·.key)).Nodup)
    (reachable : Reachable adaptor setting state) {reply : String × Int32}
    (listed : .asked .adaptor ⟨.nextExit, reply⟩ ∈ state.journal) :
    ∃ source ∈ adaptor.sources, ∃ duty exit, state.workers source.key = some duty ∧
      duty.exit? = some exit ∧ reply = (source.id, toldCode exit) := by
  -- By induction on the run, as a worker that has ended stays as it is.
  induction reachable with
  | start => cases listed
  | @step state later reachable step ih =>
    obtain ⟨deed, grown, _⟩ := step.heeds
    rw [grown] at listed
    rcases List.mem_append.mp listed with sooner | now
    · obtain ⟨source, member, duty, exit, works, ended, told⟩ := ih sooner
      exact ⟨source, member, duty, exit, reachable.keeps_ended distinct step works ended, ended,
        told⟩
    · cases List.mem_singleton.mp now
      obtain ⟨source, member, duty, exit, works, ended, told⟩ :=
        (step.asked_adaptor grown).2.2 reply rfl
      exact ⟨source, member, duty, exit, reachable.keeps_ended distinct step works ended, ended,
        told⟩

/-- A worker that has come to its end without a refused connection or a failed polling has ended
cleanly. -/
theorem Reachable.ends_clean (distinct : (adaptor.sources.map (·.key)).Nodup)
    (reachable : Reachable adaptor setting state) {source : Source}
    (member : source ∈ adaptor.sources) {exit : WorkerExit}
    (works : state.workers source.key = some (.going (.done exit))) :
    ∃ sessions, (adaptor.workerFor source).Goes (own (.worker source.key) state.journal) sessions
        exit ∧
      ((∀ key cause, ⟨.connectProducer key, .error cause⟩ ∉
          own (.worker source.key) state.journal) →
        (∀ session ∈ sessions, session.isFailed = false) → exit.code = 0) := by
  have ended := (reachable.follows distinct member works).runs (.done exit)
  rw [List.append_nil] at ended
  obtain ⟨sessions, goes⟩ := Worker.run_runs_iff.mp ended
  refine ⟨sessions, goes, fun connected unfailed => ?_⟩
  obtain ⟨serving, serves, split⟩ := goes
  -- A worker fails only by a refused connection or a failed polling, so its exit is the clean one.
  have clean : exit = (adaptor.workerFor source).clean :=
    serves.clean (fun key cause listed => connected key cause (by simp [split, listed])) unfailed
  rw [clean]
  rfl

/-- However many workers there are, whatever anybody answers, and in whatever order the tasks of a
run take their steps, a run is cancelled only for a failure, and then its workers end after the
batch that each is about. -/
theorem Reachable.cancels_on_failure (distinct : (adaptor.sources.map (·.key)).Nodup)
    (reachable : Reachable adaptor setting state) :
    -- Failing fast, the adaptor cancels the run before it does anything else about a failure,
    (adaptor.options.failFast = true → ∀ first failure rest,
      own .adaptor state.journal = first ++ failure :: rest → failure.isFailure = true →
      (∀ other ∈ rest, other.call = .isCancelled ∨ ∃ event, other.call = .log event) ∨
        state.setting.isCancelled = true) ∧
    -- which it was told of truthfully, and otherwise it never does.
    (∀ first cancelling rest, own .adaptor state.journal = first ++ cancelling :: rest →
      cancelling.call = .cancelRun →
      adaptor.options.failFast = true ∧ ∃ failure ∈ first, failure.isFailure = true) ∧
    (∀ reply, .asked .adaptor ⟨.nextExit, reply⟩ ∈ state.journal →
      ∃ source ∈ adaptor.sources, ∃ duty exit, state.workers source.key = some duty ∧
        duty.exit? = some exit ∧ reply = (source.id, toldCode exit)) ∧
    -- From then on, each worker polls at most once more and routes at most one more batch.
    (∀ before cancelling after, state.journal = before ++ .asked .adaptor cancelling :: after →
      cancelling.call = .cancelRun → ∀ key,
        (own (.worker key) after).countP (·.call.isPoll) ≤ 1 ∧
          (own (.worker key) after).countP (·.beginsRouting) ≤ 1) ∧
    (∀ source ∈ adaptor.sources,
      -- A worker in the middle of a batch has to route the rest of it, which comes to an end,
      (∀ rest, state.workers source.key = some (.going rest) →
        (adaptor.workerFor source).Course (own (.worker source.key) state.journal) rest) ∧
      ((∀ message, (adaptor.router.route adaptor.allowance.depth message).Ends) →
        ∀ items routing left,
          ((adaptor.workerFor source).routeBatch items).Reaches routing left → left.Ends) ∧
      -- with the transaction over, and the producer told of any success.
      (∀ items routing outcome,
        ((adaptor.workerFor source).routeBatch items).Runs routing outcome →
          (adaptor.workerFor source).Concludes items routing) ∧
      -- A worker whose connections and pollings did not fail ends cleanly.
      ∀ exit, state.workers source.key = some (.going (.done exit)) →
        ∃ sessions, (adaptor.workerFor source).Goes
          (own (.worker source.key) state.journal) sessions
            exit ∧
          ((∀ key cause, ⟨.connectProducer key, .error cause⟩ ∉
              own (.worker source.key) state.journal) →
            (∀ session ∈ sessions, session.isFailed = false) → exit.code = 0)) ∧
    -- Nobody is kept waiting, and nobody is told of what was cancelled in another run.
    (∀ key call next, state.workers key = some (.going (.ask call next)) →
      ∃ later, Step adaptor state later ∧
        ∃ reply, later.journal = state.journal ++ [.asked (.worker key) ⟨call, reply⟩]) ∧
    ∀ before task exchange after, state.journal = before ++ .asked task exchange :: after →
      exchange.tellsCancelled = true → (setting.stopped = true ∨ .stopped ∈ before) ∨
        adaptor.options.failFast = true ∧
          ∃ cancelling ∈ own .adaptor before, cancelling.call = .cancelRun := by
  refine ⟨fun fast first failure rest => reachable.heeds_failure distinct fast,
    fun first cancelling rest => reachable.cancels_for_failure,
    fun reply => reachable.notices distinct,
    fun before cancelling after => reachable.at_most_one_more distinct,
    fun source member => ⟨fun rest works => ?_, fun comes items routing left reaches => ?_,
      fun items routing outcome => Worker.routeBatch_concludes,
      fun exit works => reachable.ends_clean distinct member works⟩,
    fun key call next => Step.exists_of_going,
    fun before task exchange after => reachable.told_cancelled distinct⟩
  · exact (adaptor.workerFor source).run_inCourse _ _ (reachable.follows distinct member works)
  · exact (@Worker.routeBatch_ends (adaptor.workerFor source) comes items).reaches reaches

/-- Two producers whose batches go nowhere. -/
def pair : Adaptor where
  router := ⟨⟨[], [], ["broken", "busy"], [], .builtIn⟩, .empty⟩
  sources := [⟨0, "broken", "Broken", false, ⟨0⟩, []⟩, ⟨1, "busy", "Busy", false, ⟨0⟩, []⟩]
  options := .default
  allowance := ⟨1, 4⟩

/-- Surroundings in which one producer cannot be polled, and the other always has a batch. -/
def unequal (setting : Setting) : (call : Call) → call.Reply
  | .isExhausted _ => false
  | .poll key _ => if key = 0 then .failed (.connection "remote closed") else .batch [.null]
  | call => setting.reply call

/-- A run in which the one worker fails while the other one has just been given a batch. -/
def cutShort : List AdaptorTasks.Turn :=
  List.replicate 6 .adaptor ++ List.replicate 6 (.worker 1) ++ List.replicate 11 (.worker 0) ++
    List.replicate 4 .adaptor ++ List.replicate 15 (.worker 1) ++ List.replicate 9 .adaptor

/-- A run that has come to the point where both workers look at it. -/
def underWay : List AdaptorTasks.Turn :=
  List.replicate 6 .adaptor ++ List.replicate 4 (.worker 1)

/-- Whether a deed is that the adaptor cancels its run. -/
def isCancelling : Deed → Bool
  | .asked .adaptor ⟨.cancelRun, _⟩ => true
  | _ => false

/-- Such a deed is an exchange of the adaptor, in which it cancels its run. -/
theorem cancelling_of_isCancelling {deed : Deed} (cancels : isCancelling deed = true) :
    ∃ cancelling, deed = .asked .adaptor cancelling ∧ cancelling.call = .cancelRun := by
  unfold isCancelling at cancels
  split at cancels
  · exact ⟨_, rfl, rfl⟩
  · cases cancels

/-- Whether a worker has come to its end without a failure. -/
def isClean : Option Duty → Bool
  | some (.going (.done exit)) => exit.code == 0
  | _ => false

/-- Such a worker has come to its end with the exit code of a success. -/
theorem clean_of_isClean {duty : Option Duty} (clean : isClean duty = true) :
    ∃ exit, duty = some (.going (.done exit)) ∧ exit.code = 0 := by
  unfold isClean at clean
  split at clean
  · exact ⟨_, rfl, eq_of_beq clean⟩
  · cases clean

/-- Whether a deed is that the second worker looks at its run and finds it not cancelled. -/
def isUntold : Deed → Bool
  | .asked (.worker 1) ⟨.isCancelled, false⟩ => true
  | _ => false

/-- Such a deed is the exchange in which the second worker looks. -/
theorem untold_of_isUntold {deed : Deed} (untold : isUntold deed = true) :
    deed = .asked (.worker 1) ⟨.isCancelled, false⟩ := by
  unfold isUntold at untold
  split at untold
  · rfl
  · cases untold

/-- The worker that fails has the run cancelled, the other one routes the batch that it was given
and ends cleanly, and in the next run it is told of nothing. -/
theorem cancels_on_failure_pair :
    ∃ first second, Reachable pair ⟨fun _ => .stopped, false, false⟩ first ∧
      Reachable pair first.setting second ∧ first.setting.cancelled = true ∧
      (∃ before cancelling after, first.journal = before ++ .asked .adaptor cancelling :: after ∧
        cancelling.call = .cancelRun ∧
        (own (.worker 1) after).countP (·.beginsRouting) ≤ 1) ∧
      (own (.worker 1) first.journal).countP (·.beginsRouting) = 1 ∧
      (∃ exit, first.workers 1 = some (.going (.done exit)) ∧ exit.code = 0) ∧
      .asked (.worker 1) ⟨.isCancelled, false⟩ ∈ second.journal := by
  have distinct : (pair.sources.map (·.key)).Nodup := by decide
  -- The kernel plays the scripts of both runs, with everything that is to be read off their ends.
  obtain ⟨first, reachable, checked⟩ := (Reachable.start).exists_turns unequal cutShort
    (fun first => first.setting.cancelled && first.journal.any isCancelling &&
      (own (.worker 1) first.journal).countP (·.beginsRouting) == 1 && isClean (first.workers 1) &&
      (underWay.foldlM (turn? pair unequal) (opening pair first.setting)).any
        fun second => second.journal.any isUntold)
    (by decide +kernel : ((cutShort.foldlM (turn? pair unequal)
      (opening pair ⟨fun _ => .stopped, false, false⟩)).any _) = true)
  -- Both runs were computed in one go, and are taken apart again.
  simp only [Bool.and_eq_true, beq_iff_eq] at checked
  obtain ⟨⟨⟨⟨cancelled, cancels⟩, routed⟩, clean⟩, further⟩ := checked
  obtain ⟨second, next, untold⟩ := (Reachable.start).exists_turns unequal underWay _ further
  -- What the checks have found stands in the journals.
  obtain ⟨deed, listed, recognised⟩ := List.any_eq_true.mp cancels
  obtain ⟨cancelling, rfl, same⟩ := cancelling_of_isCancelling recognised
  obtain ⟨before, after, split⟩ := List.append_of_mem listed
  obtain ⟨look, looked, unaware⟩ := List.any_eq_true.mp untold
  obtain rfl := untold_of_isUntold unaware
  -- The bound on what is routed after the cancelling is the general one.
  obtain ⟨_, _, _, few, _⟩ := reachable.cancels_on_failure distinct
  exact ⟨first, second, reachable, next, cancelled,
    ⟨before, cancelling, after, split, same, (few before cancelling after split same 1).2⟩, routed,
    clean_of_isClean clean, looked⟩

end RunState

end BatchFlow
