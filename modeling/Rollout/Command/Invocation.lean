import Rollout.Command.Usage

/-!
# Commands

The commands of the tool with their options: to write a starter project, to validate a manifest, to
show its plan, and to deploy it.
-/

namespace Rollout.Command

/-- What a plan is made of. -/
structure Source where
  manifest : String
  targets : List String
  arguments : List String
  basePath : Option String
  deriving DecidableEq, Repr

/-- A command to carry out. -/
inductive Invocation where
  | init (path : String)
  | validate (manifest : String)
  | plan (source : Source) (json : Bool)
  | deploy (source : Source) (config : Option String) (maxParallel : Option Nat) (dryRun : Bool)
  deriving DecidableEq, Repr

/-- The option for help, which every command has. -/
def helpChoice : Choice :=
  ⟨some 'h', ⟨"help", .help, false⟩⟩

/-- The option for a fuller log, which every command has. -/
def debugChoice : Choice :=
  ⟨none, ⟨"debug", .nothing, false⟩⟩

/-- What the tool itself takes in front of a command. -/
def toolForm : Form :=
  ⟨[helpChoice, debugChoice, ⟨some 'V', ⟨"version", .version, false⟩⟩], [], [], .unknownCommand⟩

/-- What the command for a starter project takes. -/
def initForm : Form :=
  ⟨[helpChoice, debugChoice], [⟨"path", .path, false⟩], [], .unknownArgument⟩

/-- The place for a manifest. -/
def manifestPlace : Slot :=
  ⟨"manifest", .path, false⟩

/-- What the command for validation takes. -/
def validateForm : Form :=
  ⟨[helpChoice, debugChoice], [manifestPlace], ["manifest"], .unknownArgument⟩

/-- The options of commands that make a plan. -/
def sourceChoices : List Choice :=
  [helpChoice, debugChoice, ⟨some 'a', ⟨"argument", .text, true⟩⟩,
    ⟨none, ⟨"base-path", .path, false⟩⟩]

/-- The places of commands that make a plan. -/
def sourcePlaces : List Slot :=
  [manifestPlace, ⟨"targets", .text, true⟩]

/-- What the command that shows a plan takes. -/
def planForm : Form :=
  ⟨sourceChoices ++ [⟨none, ⟨"json", .nothing, false⟩⟩], sourcePlaces, ["manifest"],
    .unknownArgument⟩

/-- What the command for a deployment takes. -/
def deployForm : Form :=
  ⟨sourceChoices ++
      [⟨some 'c', ⟨"config", .path, false⟩⟩, ⟨none, ⟨"max-parallel", .number, false⟩⟩,
        ⟨none, ⟨"dry-run", .nothing, false⟩⟩],
    sourcePlaces, ["manifest"], .unknownArgument⟩

/-- What a plan is made of, from the words that were given. -/
def sourceOf (p : Progress) : Source :=
  ⟨(p.value? "manifest").getD "", p.valuesOf "targets", p.valuesOf "argument",
    p.value? "base-path"⟩

/-- The names of the commands; the last one tells about the others. -/
def commandNames : List String :=
  ["init", "validate", "plan", "deploy", "help"]

/-- What is told about commands: the names must lead to one. -/
def helpFor : List String → Refusal
  | [] => .help
  | [name] => if commandNames.contains name then .help else .unknownCommand
  | _ => .unknownCommand

/-- Reads the words behind the name of a command. -/
def readCommand (name : String) (words : List String) : Except Refusal Invocation :=
  match name with
  | "init" => (initForm.read words).map fun p => .init ((p.value? "path").getD ".")
  | "validate" => (validateForm.read words).map fun p => .validate ((p.value? "manifest").getD "")
  | "plan" => (planForm.read words).map fun p => .plan (sourceOf p) (p.isGiven "json")
  | "deploy" => (deployForm.read words).map fun p =>
    .deploy (sourceOf p) (p.value? "config")
      ((p.value? "max-parallel").bind fun s => Text.uint64? s.toList) (p.isGiven "dry-run")
  | _ => .error (helpFor words)

/-- Reads words up to the name of a command, and the command. Behind two dashes a name is no
command any more. -/
def readTool : Progress → List String → Except Refusal Invocation
  | p, [] => .error (if p.given.isEmpty then .noWords else .noCommand)
  | p, word :: rest =>
    if commandNames.contains word then
      if p.trailing then .error .unknownArgument else readCommand word rest
    else match p.readWord toolForm word with
      | .error e => .error e
      | .ok p => readTool p rest

/-- The command that words give. -/
def parse (words : List String) : Except Refusal Invocation :=
  readTool .start words

end Rollout.Command
