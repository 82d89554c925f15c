import Rollout.Command.Perform

/-!
# The command line

The commands over the files and the environment of the system. No program is run from here: an
instance that is not only told what would be sent to it cannot be reached.
-/

namespace Rollout

open Rollout.Command

/-- The fault that an error of the system tells. -/
def faultOf : IO.Error → PathFault
  | .noFileOrDirectory .. => .missing
  | .alreadyExists .. => .present
  | .inappropriateType _ _ details => .other details
  | e => .other e.toString

/-- Work on the system with the fault it ends in, if it ends in one. -/
def guarded {α : Type} (work : IO α) : IO (Except PathFault α) := do
  try
    return .ok (← work)
  catch e =>
    return .error (faultOf e)

/-- The surroundings that the system makes. -/
def system : Surroundings IO where
  text? path := guarded (IO.FS.readFile path)
  isFile path := do
    match ← guarded (IO.FS.readFile path) with
    | .ok _ => return true
    | .error _ => return false
  isPresent path := do
    match ← guarded (IO.FS.realPath path) with
    | .ok _ => return true
    | .error _ => return false
  makeDirectories path := guarded (IO.FS.createDirAll path)
  write path text := guarded (IO.FS.writeFile path text)
  lookup name := IO.getEnv name
  launch _ := .error PathFault.missing.message
  say
    | .output text => IO.println text
    | .error text => IO.eprintln text

/-- The commands with what they take. -/
def usage : List String :=
  ["usage: sqldeploy init [PATH]",
    "       sqldeploy validate MANIFEST",
    "       sqldeploy plan MANIFEST [TARGET...] [-a NAME=VALUE]... [--base-path DIR] [--json]",
    "       sqldeploy deploy MANIFEST [TARGET...] [-a NAME=VALUE]... [-c FILE]",
    "           [--base-path DIR] [--max-parallel N] [--dry-run]"]

end Rollout

/-- Performs the command that the words give. -/
def main (words : List String) : IO UInt32 := do
  match Rollout.Command.parse words with
  | .error .version =>
    IO.println "sqldeploy 0.4.0"
    return 0
  | .error .help =>
    Rollout.usage.forM IO.println
    return 0
  | .error _ =>
    Rollout.usage.forM IO.eprintln
    return 2
  | .ok invocation =>
    match ← (Rollout.Command.perform Rollout.system invocation).run with
    | .ok () => return 0
    | .error failure =>
      IO.eprintln ("error: " ++ failure.message)
      return 1
