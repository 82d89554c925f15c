import Rollout.Command.Message
import Rollout.Sqlcmd.Call

/-!
# The surroundings of a command

What a command can do to the files, the environment and the reader of its messages. A folder that
is held in memory can take the place of the files.
-/

namespace Rollout.Command

/-- What a command is performed in. -/
structure Surroundings (m : Type → Type) where
  text? : String → m (Except PathFault String)
  isFile : String → m Bool
  isPresent : String → m Bool
  makeDirectories : String → m (Except PathFault Unit)
  write : String → String → m (Except PathFault Unit)
  lookup : String → m (Option String)
  launch : Sqlcmd.Launcher
  say : Message → m Unit

/-- A folder in memory, and what was said so far. -/
structure Memory where
  folder : Folder
  messages : List Message

namespace Memory

/-- Keeps a changed folder. -/
def keep (changed : Except PathFault Folder) : StateM Memory (Except PathFault Unit) :=
  match changed with
  | .error e => pure (.error e)
  | .ok folder => do
    modify fun memory => { memory with folder }
    return .ok ()

/-- The surroundings that a folder in memory makes, with given variables and a way in which
programs are run. -/
def surroundings (value? : String → Option String) (launch : Sqlcmd.Launcher) :
    Surroundings (StateM Memory) where
  text? path := return (← get).folder.text? path
  isFile path := return (← get).folder.isFile path
  isPresent path := return (← get).folder.isPresent path
  makeDirectories path := do keep ((← get).folder.makeDirectories path)
  write path text := do keep ((← get).folder.write path text)
  lookup name := pure (value? name)
  launch := launch
  say message := modify fun memory => { memory with messages := memory.messages ++ [message] }

end Memory

end Rollout.Command
