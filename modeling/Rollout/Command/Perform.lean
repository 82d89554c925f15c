import Rollout.Command.Invocation
import Rollout.Command.Starter
import Rollout.Command.Surroundings
import Rollout.Manifest.Check
import Rollout.Manifest.Schema
import Rollout.Plan.Compile
import Rollout.Plan.Describe
import Rollout.Plan.Fingerprint

/-!
# The performance of commands

Each command as work in some surroundings. A command says things as it goes, and ends or fails.
-/

namespace Rollout.Command

variable {m : Type → Type} [Monad m]

/-- Work of a command. -/
abbrev Work (m : Type → Type) (α : Type) := ExceptT Failure m α

/-- Says something on the output. -/
def say (s : Surroundings m) (text : String) : Work m Unit :=
  ExceptT.lift (s.say (.output text))

/-- Says something among the errors. -/
def warn (s : Surroundings m) (text : String) : Work m Unit :=
  ExceptT.lift (s.say (.error text))

/-- A result that fails for a reason. -/
def orFail {ε α : Type} (failure : ε → Failure) : Except ε α → Work m α
  | .ok a => pure a
  | .error e => throw (failure e)

/-- Reads a manifest from a file. -/
def loadManifest (s : Surroundings m) (path : String) : Work m Manifest := do
  let text ← orFail (.unreadable path) (← s.text? path)
  let manifest ← orFail (.manifest path) (Manifest.ofText text)
  return { manifest with source := some path }

/-- Tells the defects of a manifest. -/
def sayDefects (s : Surroundings m) (defects : List Defect) : Work m Unit :=
  defects.forM fun d => warn s ("  ERROR: " ++ d.message)

/-- Reads a manifest from a file, and fails if it has defects. -/
def loadValid (s : Surroundings m) (path : String) : Work m Manifest := do
  let manifest ← loadManifest s path
  let defects := manifest.defects
  if defects.isEmpty then return manifest
  sayDefects s defects
  throw .invalid

/-- Makes a plan. -/
def makePlan (s : Surroundings m) (source : Source) : Work m (Manifest × Plan) := do
  let manifest ← loadValid s source.manifest
  let values ← orFail .argument (parseArguments source.arguments)
  let plan ← orFail .plan (manifest.compile values source.basePath)
  return (manifest, plan)

/-- Writes a starter project. -/
def startProject (s : Surroundings m) (path : String) : Work m Unit := do
  let manifest := Path.join path manifestFile
  let config := Path.join path configFile
  if ← s.isPresent manifest then throw (.present manifest)
  if ← s.isPresent config then throw (.present config)
  orFail (.uncreated path) (← s.makeDirectories path)
  orFail (.unwritten manifest) (← s.write manifest starterManifest)
  orFail (.unwritten config) (← s.write config starterConfig)
  say s s!"Initialized sqldeploy project at {path}"
  say s s!"  Created: {manifest}"
  say s s!"  Created: {config}"

/-- Checks a manifest. -/
def validate (s : Surroundings m) (path : String) : Work m Unit := do
  let manifest ← loadManifest s path
  manifest.emptyTargets.forM fun t => warn s s!"  WARNING: target '{t}' has no operations"
  manifest.undeclared.forM fun (t, p) =>
    warn s s!"  WARNING: target '{t}' references undeclared parameter '{p}'"
  let defects := manifest.defects
  if defects.isEmpty then
    let parameters := manifest.parameters.size
    let targets := manifest.targets.size
    say s s!"OK: {manifest.title} ({parameters} parameters, {targets} targets)"
  else
    sayDefects s defects
    throw (.defects defects.length)

/-- The JSON of the targets of an order. -/
def orderJson (manifest : Manifest) (p : Plan) (order : List String) : Json :=
  .object
    [("name", .text manifest.name), ("fingerprint", .text p.fingerprint),
      ("order", .list (order.map .text)),
      ("targets", .object (order.filterMap fun name =>
        (p.targets.get? name).map fun t => (name, Plan.targetJson t)))]

/-- Shows a plan. -/
def showPlan (s : Surroundings m) (source : Source) (json : Bool) : Work m Unit := do
  let (manifest, p) ← makePlan s source
  let order ← orFail .plan (p.schedule source.targets)
  if json then
    say s (String.ofList ((orderJson manifest p order).sorted.spread 0))
  else
    let steps := (order.flatMap p.steps).length
    say s s!"Planning: {manifest.title} ({order.length} targets, {steps} steps)"
    say s ""
    (p.describe order).forM (say s)
    say s ""
    say s s!"Fingerprint: {p.fingerprint}"

/-- Reads a configuration from a file. -/
def loadConfig (s : Surroundings m) (path : String) : Work m Config := do
  let text ← orFail (.unreadable path) (← s.text? path)
  orFail (.config path) (Config.ofText text)

/-- The configuration at a path, or else the one beside the manifest, or else the default. -/
def findConfig (s : Surroundings m) (manifest : String) : Option String → Work m Config
  | some path => loadConfig s path
  | none => do
    let beside := Path.join ((Path.parent? manifest).getD ".") configFile
    if ← s.isFile beside then loadConfig s beside
    else return .default

/-- The lines on a target in a report. -/
def reportLines (name : String) : Status → List String
  | .pending => [s!"  {name}: PENDING"]
  | .running => [s!"  {name}: RUNNING"]
  | .completed => [s!"  {name}: COMPLETED"]
  | .failed e =>
    [s!"  {name}: FAILED ({e.cause.message})", s!"    at [{e.instanceName}] {e.step}"]
  | .skipped reason => [s!"  {name}: SKIPPED ({reason.message})"]

/-- Says what a report holds. -/
def sayReport (s : Surroundings m) (r : Report) : Work m Unit := do
  (r.statuses.entries.flatMap fun (name, status) => reportLines name status).forM (say s)
  say s ""

/-- The texts of files, each read once. -/
def readFiles (s : Surroundings m) (paths : List String) : Work m Files := do
  let texts ← paths.mapM fun path => do
    return (path, (← s.text? path).mapError PathFault.message)
  return fun path => (lookPair path texts).getD (.error PathFault.missing.message)

/-- The variables of the environment that a configuration names. -/
def readVariables (s : Surroundings m) (c : Config) : Work m (String → Option String) := do
  let values ← c.passwordVariables.mapM fun name => return (name, ← s.lookup name)
  return fun name => (lookPair name values).join

/-- Deploys a manifest. The time that it takes is not measured. -/
def deploy (s : Surroundings m) (source : Source) (config : Option String)
    (maxParallel : Option Nat) (dryRun : Bool) : Work m Unit := do
  let (manifest, p) ← makePlan s source
  let c ← findConfig s source.manifest config
  let limit := maxParallel.getD c.maxParallel
  if limit = 0 then throw .noParallel
  let world ←
    if dryRun then pure World.obliging
    else do
      let lookup ← readVariables s c
      let connector ← orFail .endpoint (c.connector lookup)
      pure (connector.world s.launch)
  let manner := if dryRun then ", dry run" else ""
  say s s!"Deploying: {manifest.title} ({p.size} targets{manner})"
  let files ← readFiles s p.scripts
  let runner : Runner := ⟨p, files, world, limit⟩
  match (runner.execute source.targets false).2 with
  | .ok report =>
    sayReport s report
    say s s!"Deploy complete: {report.completed.length} target(s) in 0.0s."
  | .error (.incomplete report) =>
    sayReport s report
    throw (.run (.incomplete report))
  | .error e => throw (.run e)

/-- Performs a command. -/
def perform (s : Surroundings m) : Invocation → Work m Unit
  | .init path => startProject s path
  | .validate manifest => validate s manifest
  | .plan source json => showPlan s source json
  | .deploy source config maxParallel dryRun => deploy s source config maxParallel dryRun

end Rollout.Command
