import Rollout.Command.Argument
import Rollout.Config
import Rollout.Folder
import Rollout.Yaml.Reading

/-!
# What commands say

The messages of a command, and the reasons for which it fails.
-/

namespace Rollout.Command

/-- Something that a command says, on its output or among its errors. -/
inductive Message where
  | output (text : String)
  | error (text : String)
  deriving DecidableEq, Repr

/-- Why a command fails. -/
inductive Failure where
  | unreadable (path : String) (fault : PathFault)
  | manifest (path : String) (complaint : Yaml.Complaint)
  | config (path : String) (error : ConfigError)
  | defects (count : Nat)
  | invalid
  | argument (error : ArgumentError)
  | plan (error : PlanError)
  | endpoint (error : EndpointError)
  | noParallel
  | run (error : RunError)
  | present (path : String)
  | uncreated (path : String) (fault : PathFault)
  | unwritten (path : String) (fault : PathFault)

/-- The wording of a failure. -/
def Failure.message : Failure → String
  | unreadable path fault => s!"failed to read {path}: {fault.message}"
  | manifest path complaint => s!"{path}: YAML parse error: {complaint.message}"
  | config path error => s!"{path}: {error.message}"
  | defects count => s!"{count} validation error(s)"
  | invalid => "validation failed"
  | argument error => error.message
  | plan error => error.message
  | endpoint error => error.message
  | noParallel => "--max-parallel must be at least 1"
  | run error => error.message
  | present path => s!"{path} already exists"
  | uncreated path fault => s!"cannot create {path}: {fault.message}"
  | unwritten path fault => s!"cannot write {path}: {fault.message}"

end Rollout.Command
