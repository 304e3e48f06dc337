import ChannelBinding.Demo.Program

/-!
# The demo as a program

The command line of the demo: it reads the configuration file, runs the demo, writes its log to
standard output and the error that ended it to standard error.
-/

namespace ChannelBinding.Demo

/-- How to call the program. -/
def usage : String := "Usage: configurable-binder --config <FILE>"

/-- The contents of a file, or nothing if it cannot be read. -/
def contentsOf (path : String) : IO FileContents := do
  try
    let bytes ← IO.FS.readBinFile path
    return some bytes.toList
  catch _ => return none

end ChannelBinding.Demo

open ChannelBinding in
/-- Runs the demo. -/
def main (args : List String) : IO UInt32 := do
  match Invocation.ofArguments args with
  | .help =>
    IO.println Demo.usage
    return 0
  | .misuse =>
    IO.eprintln Demo.usage
    return 2
  | .run path =>
    let run := Demo.runFile (← Demo.contentsOf path)
    for line in run.log .default do
      IO.println line
    if let some complaint := run.complaint then
      IO.eprintln complaint
    return run.exitCode.toUInt32
