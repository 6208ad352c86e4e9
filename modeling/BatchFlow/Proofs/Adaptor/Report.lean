import BatchFlow.CommandLine
import BatchFlow.Proofs.Adaptor.Cancellation
import BatchFlow.Proofs.Adaptor.NodeLifecycle
import BatchFlow.Proofs.Worker.Sessions

/-! What a run tells of its workers in the end. Their exits are collected in the order of
registration, whatever the order in which they came to be, so the report depends on how each worker
ended and on nothing else. -/

namespace BatchFlow

open Plan (Exchange)

/-- The entry of a source in a report, if its worker failed: one that shows no exit panicked. -/
def Source.mention? (source : Source) : Option WorkerExit → Option ReportedFailure
  | some exit => exit.failure.map (⟨source.id, 1, ·⟩)
  | none => some ⟨source.id, 1, .panicked source.id⟩

/-- What the adaptor is told when a worker ends is the code of its entry. -/
theorem Source.toldCode_eq (source : Source) (exit : Option WorkerExit) :
    toldCode exit = (source.mention? exit).elim 0 (·.exitCode) := by
  -- A worker that panicked has a code of its own, and otherwise it depends on the failure.
  cases exit with
  | none => rfl
  | some exit =>
    obtain ⟨producer, failure⟩ := exit
    cases failure <;> rfl

/-- Only a worker that ended cleanly by itself has no entry. -/
theorem Source.mention?_eq_none_iff (source : Source) {exit : Option WorkerExit}
    (named : ∀ own, exit = some own → own.producer = source.id) :
    source.mention? exit = none ↔ exit = some ⟨source.id, none⟩ := by
  -- A panic always has an entry.
  cases exit with
  | none => simp [mention?]
  | some own =>
    obtain ⟨producer, failure⟩ := own
    obtain rfl : producer = source.id := named _ rfl
    simp [mention?]

namespace Report

/-- The exit code counts the failures, as far as 32 bits can. -/
def IsTallied (report : Report) : Prop := report.exitCode = .ofNat report.failures.length

variable {report : Report}

/-- Of nothing, nothing has failed. -/
theorem empty_tallied : empty.IsTallied := rfl

/-- Whatever the end of a worker adds, the exit code counts it. -/
theorem IsTallied.record (tallied : report.IsTallied) (exit : WorkerExit) :
    (report.record exit).IsTallied := by
  obtain ⟨producer, failure⟩ := exit
  cases failure with
  | none => exact tallied
  | some cause =>
    -- A failure adds an entry, and one to the code, and both sums wrap around alike.
    show report.exitCode + 1 = .ofNat (report.failures ++ [_]).length
    rw [List.length_append, Int32.ofNat_add, show report.exitCode = _ from tallied]
    rfl

/-- The end of a worker, or a panic where it shows no exit, adds the entry of its source. -/
theorem record_mention (report : Report) {source : Source} {exit : Option WorkerExit}
    (named : ∀ own, exit = some own → own.producer = source.id) :
    (report.record (exit.getD ⟨source.id, some (.panicked source.id)⟩)).failures =
      report.failures ++ (source.mention? exit).toList := by
  -- A worker without an exit panicked, and one with an exit is mentioned only if it failed.
  cases exit with
  | none => rfl
  | some own =>
    obtain ⟨producer, failure⟩ := own
    obtain rfl : producer = source.id := named _ rfl
    cases failure with
    | none => exact (List.append_nil _).symm
    | some cause => rfl

/-- One more than the largest of the signed 32-bit numbers. -/
theorem twoTo_thirtyOne : twoTo 31 = 2147483648 := by decide

/-- How many 32-bit numbers there are. -/
theorem twoTo_thirtyTwo : twoTo 32 = 4294967296 := by decide

/-- The count is read as a signed number, so its upper half is negative. -/
theorem IsTallied.toInt_exitCode (tallied : report.IsTallied) :
    report.exitCode.toInt =
      if report.failures.length % twoTo 32 < twoTo 31 then
        ((report.failures.length % twoTo 32 : Nat) : Int)
      else ((report.failures.length % twoTo 32 : Nat) : Int) - (twoTo 32 : Nat) := by
  -- Both sides are cases of the remainder, on the two halves of its range.
  rw [show report.exitCode = _ from tallied, Int32.toInt_ofNat', Int.bmod_def, twoTo_thirtyOne,
    twoTo_thirtyTwo]
  simp only [Int32.size]
  split <;> split <;> omega

/-- The exit code is the number of failures, up to the largest of the signed 32-bit numbers. -/
theorem IsTallied.toInt_exitCode_eq_iff (tallied : report.IsTallied) :
    report.exitCode.toInt = report.failures.length ↔ report.failures.length < twoTo 31 := by
  rw [tallied.toInt_exitCode, twoTo_thirtyOne, twoTo_thirtyTwo]
  -- A number that fits is its own remainder, and one that does not is larger than any that fits.
  split <;> omega

/-- A report tells of a success if the count has come round to zero. -/
theorem IsTallied.isSuccess_iff (tallied : report.IsTallied) :
    report.isSuccess = true ↔ twoTo 32 ∣ report.failures.length := by
  -- Success means that the code is zero, and the code is the number up to multiples.
  rw [isSuccess, beq_iff_eq, ← Int32.toInt_inj, tallied.toInt_exitCode, Int32.toInt_zero,
    Nat.dvd_iff_mod_eq_zero, twoTo_thirtyOne, twoTo_thirtyTwo]
  split <;> omega

/-- Cutting the exit code to the size of a byte adds those counts to the successes that are negative
as a signed number, and no others. -/
theorem IsTallied.status_eq_zero_iff (tallied : report.IsTallied) :
    report.status = 0 ↔
      twoTo 32 ∣ report.failures.length ∨ twoTo 31 ≤ report.failures.length % twoTo 32 := by
  rw [status, tallied.toInt_exitCode, Nat.dvd_iff_mod_eq_zero, twoTo_thirtyOne, twoTo_thirtyTwo]
  split <;> omega

/-- Fewer failures than there are signed numbers do not come round to zero. -/
theorem IsTallied.isSuccess_iff_of_lt (tallied : report.IsTallied)
    (few : report.failures.length < twoTo 31) :
    report.isSuccess = true ↔ report.failures = [] := by
  have half : twoTo 31 < twoTo 32 := by decide
  rw [tallied.isSuccess_iff, ← List.length_eq_zero_iff]
  -- A small number that comes round to zero is zero.
  refine ⟨fun round => Nat.eq_zero_of_dvd_of_lt round (by omega), fun clean => ?_⟩
  rw [clean]
  exact Nat.dvd_zero _

/-- Nor do they become negative. -/
theorem IsTallied.status_eq_zero_iff_of_lt (tallied : report.IsTallied)
    (few : report.failures.length < twoTo 31) : report.status = 0 ↔ report.failures = [] := by
  have half : twoTo 31 < twoTo 32 := by decide
  -- The number is its own remainder, and is in the lower half.
  have positive : ¬ twoTo 31 ≤ report.failures.length % twoTo 32 := by
    rw [Nat.mod_eq_of_lt (by omega)]
    exact Nat.not_le.mpr few
  rw [tallied.status_eq_zero_iff, or_iff_left positive, ← tallied.isSuccess_iff,
    tallied.isSuccess_iff_of_lt few]

/-- Whatever the exit code is, the status fits into a byte. -/
theorem status_lt_256 : report.status < 256 := by
  unfold status
  omega

end Report

namespace Worker

/-- Whatever a worker went through, its exit is in the name of its own producer. -/
theorem Serves.producer_eq {worker : Worker} {left : Nat} {trace : List Exchange}
    {sessions : List PollingSession} {exit : WorkerExit}
    (serves : worker.Serves left trace sessions exit) :
    exit.producer = worker.source.id := by
  induction serves with
  -- Only the last session has an exit.
  | again _ _ _ _ ih => exact ih
  | _ => rfl

/-- Every run of a worker ends in the name of its own producer. -/
theorem run_producer_eq {worker : Worker} {trace : List Exchange} {exit : WorkerExit}
    (runs : worker.run.Runs trace exit) : exit.producer = worker.source.id := by
  obtain ⟨_, _, serves, _⟩ := run_runs_iff.mp runs
  exact serves.producer_eq

end Worker

namespace Adaptor

variable {adaptor : Adaptor} {trace : List Exchange} {report result : Report}

/-- What is collected are the entries of all sources, in their order. -/
theorem collect_runs {sources : List Source} (exits : Nat → Option WorkerExit)
    (runs : (collect report sources).Runs trace result)
    (told : ∀ key exit, (⟨.collectExit key, exit⟩ : Exchange) ∈ trace → exit = exits key)
    (named : ∀ source ∈ sources, ∀ own, exits source.key = some own → own.producer = source.id)
    (tallied : report.IsTallied) :
    result.failures =
        report.failures ++ sources.filterMap (fun source => source.mention? (exits source.key)) ∧
      result.IsTallied ∧
      ∀ source ∈ sources, (⟨.collectExit source.key, exits source.key⟩ : Exchange) ∈ trace := by
  -- The report grows from source to source, so it is generalised.
  induction sources generalizing report trace with
  | nil =>
    obtain ⟨rfl, rfl⟩ := Plan.runs_done_iff.mp runs
    exact ⟨by simp, tallied, by simp⟩
  | cons source rest ih =>
    obtain ⟨exit, further, rfl, more⟩ := Plan.runs_call_bind_iff.mp runs
    -- What is answered for this source is the exit that its worker has in the end.
    obtain rfl : exit = exits source.key := told _ _ List.mem_cons_self
    obtain ⟨first, others⟩ := List.forall_mem_cons.mp named
    have recorded : (collect (report.record
        ((exits source.key).getD ⟨source.id, some (.panicked source.id)⟩)) rest).Runs further
        result := by
      cases same : exits source.key <;> simpa [same] using more
    obtain ⟨failures, counted, asked⟩ := ih recorded
      (fun key other listed => told key other (List.mem_cons_of_mem _ listed)) others
      (tallied.record _)
    refine ⟨?_, counted, List.forall_mem_cons.mpr
      ⟨List.mem_cons_self, fun other member => List.mem_cons_of_mem _ (asked other member)⟩⟩
    rw [failures, Report.record_mention _ first, List.append_assoc, List.filterMap_cons]
    cases source.mention? (exits source.key) <;> rfl

/-- The report of the workers is what was collected after all of them were waited for. -/
theorem runWorkers_collects (runs : adaptor.runWorkers.Runs trace report) :
    ∃ collecting, collecting ⊆ trace ∧
      (collect .empty adaptor.sources).Runs collecting report := by
  -- The collecting is the last part of what the adaptor goes through with its workers.
  obtain ⟨_, _, rfl, begins⟩ := Plan.runs_call_bind_iff.mp runs
  obtain ⟨_, spawning, _, rfl, _, waits⟩ := Plan.runs_bind_iff.mp begins
  obtain ⟨_, waiting, collecting, rfl, _, collects⟩ := Plan.runs_bind_iff.mp waits
  exact ⟨collecting, fun exchange listed => by simp [listed], collects⟩

/-- The report of what is done between the two changes of the lifecycle was collected in it. -/
theorem runStarted_collects (runs : adaptor.runStarted.Runs trace (.ok report)) :
    ∃ collecting, collecting ⊆ trace ∧
      (collect .empty adaptor.sources).Runs collecting report := by
  unfold runStarted at runs
  extract_lets defects at runs
  split at runs
  · -- Whoever found a defect has no report.
    obtain ⟨_, _, _, rfl, _, ends⟩ := Plan.runs_bind_iff.mp runs
    obtain ⟨_, same⟩ := Plan.runs_done_iff.mp ends
    cases same
  · obtain ⟨start, _, rfl, asked⟩ := Plan.runs_call_bind_iff.mp runs
    obtain ⟨_, _, rfl, logged⟩ := Plan.runs_call_bind_iff.mp asked
    obtain ⟨started, starting, _, rfl, _, more⟩ := Plan.runs_bind_iff.mp logged
    cases started with
    | error refusal =>
      obtain ⟨_, same⟩ := Plan.runs_done_iff.mp more
      cases same
    | ok _ =>
      obtain ⟨collected, working, _, rfl, works, rest⟩ := Plan.runs_bind_iff.mp more
      obtain ⟨collecting, part, collects⟩ := runWorkers_collects works
      -- What follows only closes the run, and returns the report as it is.
      obtain ⟨_, shutting, _, rfl, _, stops⟩ := Plan.runs_bind_iff.mp rest
      obtain ⟨_, stopping, _, rfl, _, closes⟩ := Plan.runs_bind_iff.mp stops
      obtain ⟨_, _, _, rfl, _, last⟩ := Plan.runs_bind_iff.mp closes
      obtain ⟨_, _, rfl, ends⟩ := Plan.runs_call_bind_iff.mp last
      obtain ⟨rfl, same⟩ := Plan.runs_done_iff.mp ends
      cases same
      exact ⟨collecting, fun exchange listed => by simp [part listed], collects⟩

/-- Where there is a report, it was collected. -/
theorem run_collects (runs : adaptor.run.Runs trace (.ok report)) :
    ∃ collecting, collecting ⊆ trace ∧
      (collect .empty adaptor.sources).Runs collecting report := by
  -- The run begins with one change of the lifecycle and ends with another and a report.
  obtain ⟨moved, _, rfl, more⟩ := Plan.runs_call_bind_iff.mp runs
  cases moved with
  | false =>
    obtain ⟨_, same⟩ := Plan.runs_done_iff.mp more
    cases same
  | true =>
    obtain ⟨ended, working, _, rfl, works, rest⟩ := Plan.runs_bind_iff.mp more
    obtain ⟨_, _, rfl, further⟩ := Plan.runs_call_bind_iff.mp rest
    obtain ⟨_, _, rfl, last⟩ := Plan.runs_call_bind_iff.mp further
    obtain ⟨rfl, rfl⟩ := Plan.runs_done_iff.mp last
    obtain ⟨collecting, part, collects⟩ := runStarted_collects works
    exact ⟨collecting, fun exchange listed => by simp [part listed], collects⟩

end Adaptor

namespace RunState

variable {adaptor : Adaptor} {setting : Setting} {state later : RunState}

/-- How the worker of a producer ended, if it has: one that panicked has no exit to show. -/
def exit? (state : RunState) (key : Nat) : Option (Option WorkerExit) :=
  (state.workers key).bind (·.exit?)

/-- The entry that a source is to have in the report of a run, if its worker failed. -/
def mention? (state : RunState) (source : Source) : Option ReportedFailure :=
  (state.exit? source.key).bind source.mention?

/-- The worker of a source has come to its own end, and without a failure. -/
def EndsCleanly (state : RunState) (source : Source) : Prop :=
  state.exit? source.key = some (some ⟨source.id, none⟩)

/-- A worker has ended with an exit if it has begun, and come to an end that shows this exit. -/
theorem exit?_eq_some_iff {key : Nat} {exit : Option WorkerExit} :
    state.exit? key = some exit ↔
      ∃ duty, state.workers key = some duty ∧ duty.exit? = some exit :=
  Option.bind_eq_some_iff

/-- The exit that was collected from a worker is the one that it has in the end. -/
theorem Reachable.collected (distinct : (adaptor.sources.map (·.key)).Nodup)
    (reachable : Reachable adaptor setting state) {key : Nat} {exit : Option WorkerExit}
    (listed : .asked .adaptor ⟨.collectExit key, exit⟩ ∈ state.journal) :
    state.exit? key = some exit := by
  rw [exit?_eq_some_iff]
  -- A worker that has ended stays as it is, so the induction is on what has happened since.
  induction reachable with
  | start => cases listed
  | @step state later reachable step ih =>
    obtain ⟨deed, grown, _⟩ := step.heeds
    rw [grown] at listed
    rcases List.mem_append.mp listed with sooner | now
    · obtain ⟨duty, works, ended⟩ := ih sooner
      exact ⟨duty, reachable.keeps_ended distinct step works ended, ended⟩
    · cases List.mem_singleton.mp now
      -- Only a worker that has ended can be collected.
      cases step with
      | lead asks aside =>
        cases List.append_cancel_left grown
        cases aside
      | collect asks begun ended =>
        cases List.append_cancel_left grown
        exact ⟨_, begun, ended⟩
      | notice | begin | work | panic | stop => cases List.append_cancel_left grown

/-- A worker that has ended was brought down by a panic, or has come to the exit that its own run
led to. -/
theorem Reachable.ended_of_exit? (distinct : (adaptor.sources.map (·.key)).Nodup)
    (reachable : Reachable adaptor setting state) {source : Source}
    (member : source ∈ adaptor.sources) {exit : Option WorkerExit}
    (ended : state.exit? source.key = some exit) :
    (exit = none ∧ ∃ call, state.workers source.key = some (.panicked call)) ∨
      ∃ own, exit = some own ∧ state.workers source.key = some (.going (.done own)) ∧
        (adaptor.workerFor source).run.Runs (BatchFlow.own (.worker source.key) state.journal)
          own := by
  obtain ⟨duty, works, exits⟩ := exit?_eq_some_iff.mp ended
  cases duty with
  | panicked call =>
    cases exits
    exact .inl ⟨rfl, call, works⟩
  | going rest =>
    -- A worker that has yet to be answered has no exit.
    cases rest with
    | done own =>
      cases exits
      have runs := (reachable.follows distinct member works).runs (.done own)
      exact .inr ⟨own, rfl, works, by simpa using runs⟩
    | ask | starved => cases exits

/-- The exit of a worker is in the name of its own producer. -/
theorem Reachable.exit_named (distinct : (adaptor.sources.map (·.key)).Nodup)
    (reachable : Reachable adaptor setting state) {source : Source}
    (member : source ∈ adaptor.sources) {own : WorkerExit}
    (ended : state.exit? source.key = some (some own)) : own.producer = source.id := by
  -- A panic has no exit with a name, and any other exit is the one that the run of the worker led
  -- to.
  rcases reachable.ended_of_exit? distinct member ended with ⟨absent, _⟩ | ⟨_, same, _, runs⟩
  · cases absent
  · cases same
    exact Worker.run_producer_eq runs

/-- A worker that has ended has no entry only if it ended cleanly. -/
theorem Reachable.mention?_eq_none_iff (distinct : (adaptor.sources.map (·.key)).Nodup)
    (reachable : Reachable adaptor setting state) {source : Source}
    (member : source ∈ adaptor.sources) {exit : Option WorkerExit}
    (ended : state.exit? source.key = some exit) :
    state.mention? source = none ↔ state.EndsCleanly source := by
  -- Whether there is an entry depends on the exit, once that is known to be in its own name.
  have named : ∀ own, exit = some own → own.producer = source.id := by
    rintro own rfl
    exact reachable.exit_named distinct member ended
  rw [mention?, EndsCleanly, ended, Option.bind_some, source.mention?_eq_none_iff named,
    Option.some_inj]

/-- When a run is over every worker has ended, and the report has the entries of those that failed,
and counts them. -/
theorem Reachable.collects (distinct : (adaptor.sources.map (·.key)).Nodup)
    (reachable : Reachable adaptor setting state) {report : Report}
    (finished : state.supervisor = .done (.ok report)) :
    (∀ source ∈ adaptor.sources, ∃ exit, state.exit? source.key = some exit) ∧
      report.failures = adaptor.sources.filterMap state.mention? ∧ report.IsTallied := by
  -- The adaptor has come to its end, so it has collected the exits on its way there.
  have runs := reachable.led
  rw [finished] at runs
  obtain ⟨collecting, part, collects⟩ := Adaptor.run_collects (by simpa using runs.runs (.done _))
  have told : ∀ key exit, (⟨.collectExit key, exit⟩ : Exchange) ∈ collecting →
      state.exit? key = some exit :=
    fun key exit listed => reachable.collected distinct (mem_own.mp (part listed))
  -- A worker without an exit of its own is collected as one that panicked.
  obtain ⟨failures, tallied, asked⟩ := Adaptor.collect_runs
    (fun key => (state.exit? key).getD none) collects
    (fun key exit listed => by simp [told key exit listed])
    (fun source member own same => by
      cases ended : state.exit? source.key with
      | none => simp [ended] at same
      | some exit =>
        obtain rfl : exit = some own := by simpa [ended] using same
        exact reachable.exit_named distinct member ended)
    Report.empty_tallied
  -- Every source was asked about, and so its worker has an exit.
  have ended : ∀ source ∈ adaptor.sources,
      state.exit? source.key = some ((state.exit? source.key).getD none) :=
    fun source member => told _ _ (asked source member)
  refine ⟨fun source member => ⟨_, ended source member⟩, ?_, tallied⟩
  -- The entries are those that the exits give rise to.
  rw [failures]
  refine List.filterMap_congr fun source member => ?_
  rw [mention?, ended source member]
  rfl

/-- However many workers there are, whatever anybody answers, and in whatever order the workers come
to their ends, a run that is over reports the failures of its workers and nothing else. Its exit
code is their number, which has 32 bits, and tells so of up to 2147483647 of them. -/
theorem Reachable.report_lists_failures (distinct : (adaptor.sources.map (·.key)).Nodup)
    (reachable : Reachable adaptor setting state) {report : Report}
    (finished : state.supervisor = .done (.ok report)) :
    -- Each worker was brought down by a panic, or has come to the exit that its own run led to.
    (∀ source ∈ adaptor.sources,
      (state.exit? source.key = some none ∧
        ∃ call, state.workers source.key = some (.panicked call)) ∨
      ∃ exit, state.exit? source.key = some (some exit) ∧
        (adaptor.workerFor source).run.Runs (own (.worker source.key) state.journal) exit) ∧
    -- There is an entry for each one that failed, with its own cause, in the order of
    -- registration, and none if all of them ended cleanly.
    report.failures = adaptor.sources.filterMap state.mention? ∧
    (report.failures = [] ↔ ∀ source ∈ adaptor.sources, state.EndsCleanly source) ∧
    -- What the adaptor was told of its workers, as soon as they ended, agrees with the entries.
    (∀ reply, .asked .adaptor ⟨.nextExit, reply⟩ ∈ state.journal → ∃ source ∈ adaptor.sources,
      reply = (source.id, (state.mention? source).elim 0 (·.exitCode))) ∧
    -- The exit code has the last 32 bits of their number. The run counts as a success if these are
    -- zero. The exit status, which fits into a byte, is zero then, and if the first of them is set.
    report.exitCode = .ofNat report.failures.length ∧
    (report.isSuccess = true ↔ twoTo 32 ∣ report.failures.length) ∧
    (∀ printed time, (CommandLine.Session.output ⟨printed, .reported report⟩ time).status < 256 ∧
      ((CommandLine.Session.output ⟨printed, .reported report⟩ time).status = 0 ↔
        twoTo 32 ∣ report.failures.length ∨ twoTo 31 ≤ report.failures.length % twoTo 32)) ∧
    -- So the exit code is the number of the entries as long as that is a signed 32-bit number, and
    -- then it is a success, and the status is zero, only if every worker ended cleanly.
    (report.exitCode.toInt = report.failures.length ↔ report.failures.length < twoTo 31) ∧
    (report.failures.length < twoTo 31 →
      (report.isSuccess = true ↔ ∀ source ∈ adaptor.sources, state.EndsCleanly source) ∧
      ∀ printed time,
        ((CommandLine.Session.output ⟨printed, .reported report⟩ time).status = 0 ↔
          ∀ source ∈ adaptor.sources, state.EndsCleanly source)) := by
  -- The general facts about the report, which the parts of the statement are read off.
  obtain ⟨ended, failures, tallied⟩ := reachable.collects distinct finished
  have clean : report.failures = [] ↔ ∀ source ∈ adaptor.sources, state.EndsCleanly source := by
    -- There is no entry exactly if no source has one.
    rw [failures, List.filterMap_eq_nil_iff]
    refine forall₂_congr fun source member => ?_
    obtain ⟨exit, ended⟩ := ended source member
    exact reachable.mention?_eq_none_iff distinct member ended
  refine ⟨fun source member => ?_, failures, clean, fun reply listed => ?_, tallied,
    tallied.isSuccess_iff, fun _ _ => ⟨Report.status_lt_256, tallied.status_eq_zero_iff⟩,
    tallied.toInt_exitCode_eq_iff,
    fun few => ⟨(tallied.isSuccess_iff_of_lt few).trans clean,
      fun _ _ => (tallied.status_eq_zero_iff_of_lt few).trans clean⟩⟩
  · obtain ⟨exit, ended⟩ := ended source member
    refine (reachable.ended_of_exit? distinct member ended).imp ?_ ?_
    · rintro ⟨rfl, panicked⟩
      exact ⟨ended, panicked⟩
    · rintro ⟨own, rfl, _, runs⟩
      exact ⟨own, ended, runs⟩
  · obtain ⟨source, member, duty, exit, works, exits, rfl⟩ := reachable.notices distinct listed
    refine ⟨source, member, ?_⟩
    rw [mention?, exit?_eq_some_iff.mpr ⟨duty, works, exits⟩, Option.bind_some, source.toldCode_eq]

/-- Three producers that end differently, and nobody who minds it. -/
def motley : Adaptor where
  router := ⟨⟨[], [], ["steady", "broken", "brittle"], [], .builtIn⟩, .empty⟩
  sources := [⟨0, "steady", "Steady", false, ⟨0⟩, []⟩, ⟨1, "broken", "Broken", false, ⟨0⟩, []⟩,
    ⟨2, "brittle", "Brittle", false, ⟨0⟩, []⟩]
  options := ⟨false, .never⟩
  allowance := ⟨1, 4⟩

/-- Surroundings in which the first producer is exhausted, and the others cannot be polled. -/
def uneven (setting : Setting) : (call : Call) → call.Reply
  | .isExhausted key => key = 0
  | .poll .. => .failed (.connection "remote closed")
  | call => setting.reply call

/-- A run in which the third worker is brought down before the second one fails, and the first one
comes to its end last of all. -/
def inReverse : List AdaptorTasks.Turn :=
  List.replicate 7 .adaptor ++ List.replicate 3 (.worker 2) ++ [.panic 2, .adaptor] ++
    List.replicate 11 (.worker 1) ++ List.replicate 9 (.worker 0) ++ List.replicate 12 .adaptor

/-- The failures are reported in the order of registration all the same. -/
theorem report_lists_failures_motley :
    ∃ state, Reachable motley ⟨fun _ => .stopped, false, false⟩ state ∧
      state.supervisor = .done (.ok ⟨2, [
        ⟨"broken", 1, .poll "broken" (.connection "remote closed")⟩,
        ⟨"brittle", 1, .panicked "brittle"⟩]⟩) ∧
      motley.sources.filterMap state.mention? = [
        ⟨"broken", 1, .poll "broken" (.connection "remote closed")⟩,
        ⟨"brittle", 1, .panicked "brittle"⟩] ∧
      ¬ ∀ source ∈ motley.sources, state.EndsCleanly source := by
  have distinct : (motley.sources.map (·.key)).Nodup := by decide
  obtain ⟨state, reachable, checked⟩ := (Reachable.start).exists_turns uneven inReverse
    (fun state => state.result? = some (.ok ⟨2, [
      ⟨"broken", 1, .poll "broken" (.connection "remote closed")⟩,
      ⟨"brittle", 1, .panicked "brittle"⟩]⟩))
    (by decide +kernel : ((inReverse.foldlM (turn? motley uneven)
      (opening motley ⟨fun _ => .stopped, false, false⟩)).any _) = true)
  have finished := done_of_result? (of_decide_eq_true checked)
  -- A status other than zero tells that some worker did not end cleanly.
  obtain ⟨_, failures, _, _, _, _, _, _, exits⟩ := reachable.report_lists_failures distinct finished
  obtain ⟨_, succeeds⟩ := exits (by decide)
  exact ⟨state, reachable, finished, failures.symm,
    fun clean => absurd ((succeeds [] "").mpr clean) (by decide)⟩

end RunState

end BatchFlow
