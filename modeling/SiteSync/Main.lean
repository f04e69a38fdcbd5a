import SiteSync.CommandLine.Program
import SiteSync.Files.Walk

/-!
# `SiteSync.Main`: the command line

The outer layer: it hands the arguments to the program, reads the
configuration file, and prints what comes of it. It has no connection to
the cloud, so a deploy ends when the bucket is to be listed.
-/

set_option autoImplicit false

open SiteSync SiteSync.CommandLine

/-- Reads a file. -/
def readContent (path : Text) : IO (Except FileFault Bytes) := do
  try
    return .ok (← IO.FS.readBinFile path.str).toList
  catch
    | .noFileOrDirectory .. => return .error .notFound
    | e => return .error (.other e.toString.toList)

/-- The environment variable that says which log lines are shown. -/
def logVariable : String := "RUST_LOG"

/-- Where a configuration file is looked for, whatever else is wrong with
the command line. -/
def configPath (arguments : List Text) : Text :=
  match Given.ofArguments arguments with
  | .ok g => g.configFile
  | .error _ => Given.defaultConfigFile

/-- Runs the program. -/
def main (arguments : List String) : IO UInt32 := do
  let arguments := arguments.map String.toList
  let content ← readContent (configPath arguments)
  let surroundings : Surroundings Unit :=
    { read := fun _ => content
      source := LocalSource.ofTree .empty
      service := .unreachable
      world := ()
      parallelism := 8
      logFilter := (← IO.getEnv logVariable).map String.toList
      reference := List.replicate 14 '0' }
  let outcome := Program.run surroundings arguments
  for l in outcome.shown do
    IO.eprintln (l.level.name ++ " " ++ l.source.name ++ " > " ++ l.text.str)
  IO.print outcome.printed
  if let some f := outcome.failure then
    IO.eprintln ("error: " ++ f.message)
  return outcome.exitCode.toUInt32
