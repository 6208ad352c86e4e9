import BatchFlow.Assembly
import BatchFlow.Configuration.Loading
import BatchFlow.Stage.Machine

/-! The command line: one configuration file is loaded and run, and the outcome is reported. -/

namespace BatchFlow.CommandLine

open Stage

/-- How a run of the program ended. -/
inductive Ending where
  /-- Something kept the workers from being run. -/
  | failed (complaint : String)
  | reported (report : Report)

/-- What a run of the program printed, line by line, and how it ended. -/
structure Session where
  printed : List String
  ending : Ending

/-- What is printed when the arguments are wrong. -/
def usage (program : String) : String :=
  s!"Usage: {program} <config.yaml|config.toml>\n" ++
    s!"Example: {program} configs/hello-router.yaml\n"

/-- The only argument, if there is only one. -/
def file? : List String → Option String
  | [file] => some file
  | _ => none

/-- A complaint with the causes behind it. -/
def complaint (parts : List String) : String :=
  "❌ " ++ String.intercalate ": " parts ++ "\n"

/-- More than enough for any topology that ends, and for any list of items. -/
def allowance : Allowance := ⟨100000, 1000000000⟩

/-- What is told about a configuration before it is run. -/
def heading (file : String) (configuration : Configuration) : List String := [
  s!"📋 Configuration: {file}",
  s!"🔌 Producers: {configuration.producers.length}",
  s!"🧩 Nodes: {configuration.nodes.length}",
  s!"🛡️  Fail Fast: {configuration.run.failFast}"]

/-- Loads a configuration and makes an adaptor of it, or tells what is wrong with it. -/
def prepare (file : String) (content : FileContent) :
    Except String (Configuration × Assembly) := do
  let configuration ← (Configuration.loadAndCheck file content).mapError fun fault =>
    complaint (s!"failed to load {file}" :: fault.text :: fault.causes)
  let assembly ← (configuration.assemble allowance).mapError fun fault =>
    complaint (s!"failed to build adaptor from {file}" :: fault.text :: fault.causes)
  return (configuration, assembly)

/-- Runs the adaptor of a configuration file. -/
def perform (file : String) (content : FileContent) : Session :=
  match prepare file content with
  | .error complaint => ⟨[], .failed complaint⟩
  | .ok (configuration, assembly) =>
    let performance := assembly.world.runAdaptor assembly.adaptor 1 []
    let printed := heading file configuration ++ performance.world.printed.reverse
    match performance.results with
    | .ok report :: _ => ⟨printed, .reported report⟩
    | .error refusal :: _ => ⟨printed, .failed (complaint (refusal.text :: refusal.causes))⟩
    | [] => ⟨printed, .failed (complaint ["the run did not end"])⟩

/-- A failed worker in a report. -/
def failureLine (failure : ReportedFailure) : String :=
  s!"   • {failure.producer}: {failure.cause.text}"

/-- What is told about a report, with the text of the time that the program took. -/
def reportLines (time : String) (report : Report) : List String :=
  ["", "⏱️  Total Time (including config load): " ++ time] ++
    if report.isSuccess then ["✅ All producers finished cleanly"]
    else s!"❌ Exit code {report.exitCode}" :: report.failures.map failureLine

/-- What the program leaves behind. -/
structure Output where
  lines : List String
  complaint : String
  status : Nat

/-- The output of a session that took the given time. -/
def Session.output (session : Session) (time : String) : Output :=
  match session.ending with
  | .failed complaint => ⟨session.printed, complaint, 1⟩
  | .reported report => ⟨session.printed ++ reportLines time report, "", report.status⟩

/-- The output for wrong arguments. -/
def misuse (program : String) : Output :=
  ⟨[], usage program ++ complaint ["expected exactly one configuration file"], 1⟩

end BatchFlow.CommandLine
