import RuleRouting.Cli.Program

/-!
# Command line entry point

Reads the command line, the `RUST_LOG` filter setting and the configuration file the command
line names, runs the program, prints what it printed and exits with its status. A dispatcher
that started keeps running until it is stopped.
-/

open RuleRouting
open RuleRouting.Cli

/-- The text of the file a command line names, if it can be read. -/
def readNamedFile (args : List String) : IO (Option (String × String)) := do
  match readArgs args with
  | .run inv =>
    try
      let text ← IO.FS.readFile inv.configPath
      return some (inv.configPath, text)
    catch _ => return none
  | _ => return none

/-- Waits until the process is stopped. -/
partial def serveForever : IO Unit := do
  IO.sleep 60000
  serveForever

def main (args : List String) : IO UInt32 := do
  let file ← readNamedFile args
  let files : Files := fun path => match file with
    | some (p, text) => if p = path then some text else none
    | none => none
  let setting ← IO.getEnv "RUST_LOG"
  let outcome := run files setting args
  let stdout ← IO.getStdout
  let stderr ← IO.getStderr
  for line in outcome.stdout do stdout.putStrLn line
  for line in outcome.stderr do stderr.putStrLn line
  stdout.flush
  stderr.flush
  match outcome.status with
  | some code => return code.toUInt32
  | none =>
    serveForever
    return 0
