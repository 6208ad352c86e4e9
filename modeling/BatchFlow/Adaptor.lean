import BatchFlow.Worker

/-! The adaptor: it checks a topology, starts its nodes, and runs one worker for every producer. -/

namespace BatchFlow

/-- How an adaptor runs its workers. -/
structure RunOptions where
  /-- Every other worker is cancelled as soon as one fails. -/
  failFast : Bool
  restart : RestartPolicy
deriving DecidableEq

/-- The first failure ends the run, and nothing is restarted. -/
def RunOptions.default : RunOptions := ⟨true, .never⟩

/-- A worker that failed, in a report. -/
structure ReportedFailure where
  producer : String
  exitCode : Int32
  cause : WorkerFailure
deriving DecidableEq

/-- The outcome of a complete run. -/
structure Report where
  /-- The sum of all exit codes, which wraps around at 32 bits. -/
  exitCode : Int32
  failures : List ReportedFailure
deriving DecidableEq

namespace Report

/-- Nothing has happened yet. -/
def empty : Report := ⟨0, []⟩

/-- Whether every worker ended cleanly. -/
def isSuccess (report : Report) : Bool := report.exitCode == 0

/-- Adds the end of a worker. -/
def record (report : Report) (exit : WorkerExit) : Report :=
  match exit.failure with
  | none => report
  | some cause =>
    ⟨report.exitCode + exit.code, report.failures ++ [⟨exit.producer, exit.code, cause⟩]⟩

/-- The exit status of a process that ran an adaptor: the exit code, forced into one byte. -/
def status (report : Report) : Nat := (min (max report.exitCode.toInt 0) 255).toNat

end Report

/-- An adaptor: a router, the producers that feed it, and how to run them. -/
structure Adaptor where
  router : Router
  sources : List Source
  options : RunOptions
  allowance : Allowance

namespace Adaptor

/-- The worker of a source. -/
def workerFor (adaptor : Adaptor) (source : Source) : Worker :=
  ⟨source, adaptor.router, adaptor.options.restart, adaptor.allowance⟩

/-- The problems of a component as defects. -/
def misconfigurations (component : String) (problems : List String) : List Defect :=
  problems.map (.misconfigured component)

/-- Everything that keeps the adaptor from running: producers first, then nodes by their ids. -/
def defects (adaptor : Adaptor) : List Defect :=
  -- Nodes are checked in a fixed order, however they were registered.
  let nodes := adaptor.router.nodes.toList.mergeSort fun a b => a.id ≤ b.id
  (if adaptor.sources.isEmpty then [.noProducers] else []) ++
    adaptor.sources.flatMap (fun source => misconfigurations source.id source.problems) ++
    nodes.flatMap (fun node => misconfigurations node.id node.problems)

/-- Logs each defect of a list. -/
def reportDefects : List Defect → Plan Unit
  | [] => return ()
  | defect :: rest => do
    Plan.log (.checkFound defect)
    reportDefects rest

/-- Stops nodes one after the other. -/
def stopEach : List Node → Plan Unit
  | [] => return ()
  | node :: rest => do
    node.stop
    stopEach rest

/-- Stops the nodes, the one registered last first. -/
def stopNodes (adaptor : Adaptor) : Plan Unit :=
  stopEach adaptor.router.nodes.toList.reverse

/-- Starts nodes one after the other, up to the first that fails. -/
def startEach : List Node → Plan (Except (Node × Condition) Unit)
  | [] => return .ok ()
  | node :: rest => do
    match ← node.start with
    | .error cause => return .error (node, cause)
    | .ok () => startEach rest

/-- Starts the nodes in the order of registration. If one fails, all of them are stopped again. -/
def startNodes (adaptor : Adaptor) : Plan (Except Refusal Unit) := do
  match ← startEach adaptor.router.nodes.toList with
  | .error (node, cause) =>
    -- Nodes that were never started do not mind being stopped.
    adaptor.stopNodes
    return .error (.nodeStartFailed node.id cause)
  | .ok () => return .ok ()

/-- Starts one worker for every source. -/
def spawnEach : List Source → Plan Unit
  | [] => return ()
  | source :: rest => do
    Plan.call (.spawnWorker source.key)
    spawnEach rest

/-- Waits until so many workers have ended. Failing fast, the first failure cancels the rest. -/
def supervise (failFast : Bool) : Nat → Plan Unit
  | 0 => return ()
  | remaining + 1 => do
    let (producer, code) ← Plan.call .nextExit
    if code ≠ 0 ∧ failFast then
      -- The second failure finds the run cancelled, and cancels nothing.
      if !(← Plan.call .isCancelled) then
        Plan.log (.failFastShutdown producer code.toInt remaining)
        Plan.call .cancelRun
    supervise failFast remaining

/-- Collects how the workers ended, in the order of registration. -/
def collect (report : Report) : List Source → Plan Report
  | [] => return report
  | source :: rest => do
    let exit := match ← Plan.call (.collectExit source.key) with
      | some exit => exit
      -- A worker without a report of its own did not come to its end.
      | none => ⟨source.id, some (.panicked source.id)⟩
    collect (report.record exit) rest

/-- Runs every worker to its end. -/
def runWorkers (adaptor : Adaptor) : Plan Report := do
  Plan.call .openRun
  spawnEach adaptor.sources
  supervise adaptor.options.failFast adaptor.sources.length
  collect .empty adaptor.sources

/-- Tells producers that nobody will poll them any more in this run. -/
def shutdownEach : List Source → Plan Unit
  | [] => return ()
  | source :: rest => do
    Plan.call (.shutdownProducer source.key)
    shutdownEach rest

/-- Runs an adaptor that is not running yet. -/
def runStarted (adaptor : Adaptor) : Plan (Except Refusal Report) := do
  let defects := adaptor.defects
  if !defects.isEmpty then
    reportDefects defects
    return .error (.defective defects)
  let start ← Plan.call .clock
  Plan.log (.adaptorStarting adaptor.sources.length adaptor.router.nodes.size
    adaptor.options.failFast)
  match ← adaptor.startNodes with
  | .error refusal => return .error refusal
  | .ok () =>
    let report ← adaptor.runWorkers
    -- Whoever still waits at a queue is told before its nodes are gone.
    shutdownEach adaptor.sources
    adaptor.stopNodes
    Plan.log (.adaptorStopped report.exitCode.toInt report.failures.length
      (← Router.elapsedSince start))
    return .ok report

/-- Runs until every worker has stopped. An adaptor runs only once at a time. -/
def run (adaptor : Adaptor) : Plan (Except Refusal Report) := do
  -- Only one run at a time gets past this point.
  if !(← Plan.advance .adaptor .start) then
    return .error .alreadyRunning
  let result ← adaptor.runStarted
  let _ ← Plan.advance .adaptor .beginStop
  let _ ← Plan.advance .adaptor .finishStop
  return result

end Adaptor

end BatchFlow
