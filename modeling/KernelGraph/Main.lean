/-
  The command line.

  All that happens here is reading the files that a call names and writing what came of it: results
  to the standard output, log lines and the error to the standard error.
-/
import KernelGraph.Tool.Run

namespace KernelGraph.Tool

/-- Reads what is found at a path. -/
def readHost (path : String) : IO HostFile := do
  if let some file := HostFile.ofPath? path then return file
  match ← (IO.FS.readFile path).toBaseIO with
  | .ok s => return .text s
  | .error (.inappropriateType none ..) => return .directory
  | .error (.inappropriateType (some _) ..) => return .belowFile
  | .error (.invalidArgument ..) => return .tooLong
  | .error _ => return .missing

/-- The paths of the host that a command line names: the configuration and the graph file. -/
def namedPaths (line : CommandLine) : List String :=
  match line with
  | .call c => [c.flags.text "config", c.path]
  | .helpCall flags => [flags.text "config"]
  | _ => []

/-- Reads the files that a command line depends on: those that it names, and those that its graphs
    refer to. -/
def readFiles (line : CommandLine) : IO (String → HostFile) := do
  let mut found := []
  for path in namedPaths line do
    found := (path, ← readHost path) :: found
  if let .call c := line then
    if let some (.text s) := found.lookup c.path then
      for path in GraphFile.filePaths c.path s do
        found := (path, ← readHost path) :: found
  let files := found
  return fun path => (files.lookup path).getD .missing

/-- Runs the tool.  A command is carried out once to learn how long it takes. -/
def execute (args : List String) : IO Outcome := do
  let files ← readFiles (.read args)
  let start ← IO.monoMsNow
  let _ ← IO.lazyPure fun _ => run (durationText 0) files args
  let stop ← IO.monoMsNow
  return run (durationText (stop - start)) files args

end KernelGraph.Tool

open KernelGraph Tool

/-- Runs the tool on a command line; the exit code tells whether it failed. -/
def main (args : List String) : IO UInt32 := do
  let out ← execute args
  IO.print out.output
  for r in out.records do
    IO.eprintln (if out.structured then structuredLine r else logLine false r)
  match out.error with
  | none => return 0
  | some e =>
    IO.eprintln ("Error: " ++ Text.trim e.message)
    return 1
