import BatchFlow.CommandLine

/-! The program: reads the configuration file that its argument names, and prints what comes of
running it. -/

open BatchFlow

/-- What there is at a path. -/
def readContent (path : String) : IO FileContent := do
  try
    return .bytes (← IO.FS.readBinFile path)
  catch failure =>
    match failure with
    | .noFileOrDirectory .. => return .missing
    | .inappropriateType .. => return .directory
    | failure => return .refused (toString failure)

/-- Prints the output of the program, and gives its exit status. -/
def present (output : CommandLine.Output) : IO UInt32 := do
  for line in output.lines do
    IO.println line
  IO.eprint output.complaint
  return .ofNat output.status

/-- Runs the configuration that the only argument names. -/
def main (arguments : List String) : IO UInt32 := do
  match CommandLine.file? arguments with
  | none => present (CommandLine.misuse "batch-flow")
  | some file =>
    let start ← IO.monoNanosNow
    let session := CommandLine.perform file (← readContent file)
    let stop ← IO.monoNanosNow
    present (session.output (Duration.mk (stop - start)).text)
