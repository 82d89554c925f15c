import Rollout.Plan
import Rollout.Plan.Parameters

/-!
# From manifests to plans

A manifest, values for parameters and a base for file references come to a plan, or to the first
error: a parameter without a value, then a dependency that names no other target, then a template
that cannot be expanded or read, in the order of targets, blocks and operations.
-/

namespace Rollout

/-- Where an operation is compiled: the values of parameters, the base of file references and the
instance of its block. -/
structure Site where
  params : Params
  base : String
  instanceName : String

namespace Site

/-- A template with the values of parameters in it. -/
def text (site : Site) (t : Template) : Except PlanError String :=
  t.expand site.params

/-- An optional template; an absent one stays absent. -/
def text? (site : Site) : Option Template → Except PlanError (Option String)
  | none => .ok none
  | some t => (site.text t).map some

/-- Templates in order, up to the first that cannot be expanded. -/
def texts (site : Site) : List Template → Except PlanError (List String)
  | [] => .ok []
  | t :: r => do
    let text ← site.text t
    let rest ← site.texts r
    return text :: rest

/-- An optional template that is read as a value of another type. -/
def value? {α : Type} (site : Site) (reading : Template.Reading α) :
    Option Template → Except PlanError (Option α)
  | none => .ok none
  | some t => (t.expandAs reading site.params).map some

/-- A reference to a file from the base. -/
def path (site : Site) (text : String) : String :=
  Path.resolve site.base text

end Site

/-- The port on which mirroring endpoints listen for which none is given. -/
def defaultMirroringPort : Nat :=
  5022

/-- The address of the mirroring endpoint of an instance: its host, which is the text before the
first backslash or comma, and a port. -/
def endpointAddress (instanceName : String) (port : Nat) : String :=
  let host := instanceName.toList.takeWhile fun c => c != '\\' && c != ','
  "TCP://" ++ String.ofList (Text.trimChars host) ++ ":" ++ toString port

namespace Operation

/-- The step of a login. -/
def Login.step (op : Login) (site : Site) : Except PlanError Step.Login := do
  let name ← site.text op.name
  let password ← site.text? op.password
  let defaultDatabase ← site.text? op.defaultDatabase
  let serverRoles ← site.texts op.serverRoles
  return ⟨site.instanceName, name, password, defaultDatabase, serverRoles⟩

/-- The step of a database; its scripts are expanded before its other fields. -/
def Database.step (op : Database) (site : Site) : Except PlanError Step.Database := do
  let scripts ← site.texts op.scripts
  let name ← site.text op.name
  let recoveryModel ← site.value? .recoveryModel op.recoveryModel
  let owner ← site.text? op.owner
  return ⟨site.instanceName, name, recoveryModel, owner, scripts.map site.path⟩

/-- The step of a distributor. -/
def Distributor.step (op : Distributor) (site : Site) : Except PlanError Step.Distributor := do
  let databaseName ← site.text? op.databaseName
  let adminPassword ← site.text? op.adminPassword
  let minRetention ← site.value? .int32 op.minRetention
  let maxRetention ← site.value? .int32 op.maxRetention
  let historyRetention ← site.value? .int32 op.historyRetention
  let snapshotPath ← site.text? op.snapshotPath
  return ⟨site.instanceName, databaseName, adminPassword, minRetention, maxRetention,
    historyRetention, snapshotPath⟩

/-- The step of a publication. -/
def Publication.step (op : Publication) (site : Site) : Except PlanError Step.Publication := do
  let databaseName ← site.text op.databaseName
  let name ← site.text op.name
  let distributorInstance ← site.text? op.distributorInstance
  let description ← site.text? op.description
  let articles ← site.texts op.articles
  return ⟨site.instanceName, databaseName, name, distributorInstance, description,
    articles.map Article.parse⟩

/-- The step of a subscription. -/
def Subscription.step (op : Subscription) (site : Site) :
    Except PlanError Step.PullSubscription := do
  let databaseName ← site.text op.databaseName
  let publisherInstance ← site.text op.publisherInstance
  let publisherDatabaseName ← site.text op.publisherDatabaseName
  let publicationName ← site.text op.publicationName
  return ⟨site.instanceName, databaseName, publisherInstance, publisherDatabaseName,
    publicationName⟩

/-- The step of a backup; it is no copy-only backup unless it says so. -/
def Backup.step (op : Backup) (site : Site) : Except PlanError Step.Backup := do
  let databaseName ← site.text op.databaseName
  let path ← site.text op.path
  let copyOnly ← site.value? .flag op.copyOnly
  return ⟨site.instanceName, databaseName, site.path path, copyOnly.getD false⟩

/-- The step of a restore; it recovers the database unless it says otherwise. -/
def Restore.step (op : Restore) (site : Site) : Except PlanError Step.Restore := do
  let databaseName ← site.text op.databaseName
  let path ← site.text op.path
  let recovery ← site.value? .flag op.recovery
  return ⟨site.instanceName, databaseName, site.path path, recovery.getD true⟩

/-- The steps of mirroring: an endpoint on both sides, then the partner pointed at the principal
and the principal at the partner. -/
def Mirroring.steps (op : Mirroring) (site : Site) : Except PlanError (List Step) := do
  let principal := site.instanceName
  let partner ← site.text op.partnerInstance
  let databaseName ← site.text op.databaseName
  let port := (← site.value? .uint16 op.port).getD defaultMirroringPort
  let partnerAddress := (← site.text? op.partnerAddress).getD (endpointAddress partner port)
  let principalAddress := (← site.text? op.principalAddress).getD (endpointAddress principal port)
  return [.mirroringEndpoint ⟨principal, port⟩, .mirroringEndpoint ⟨partner, port⟩,
    .mirroringPartner ⟨partner, databaseName, principalAddress⟩,
    .mirroringPartner ⟨principal, databaseName, partnerAddress⟩]

/-- The steps of an operation. -/
def steps (site : Site) : Operation → Except PlanError (List Step)
  | login op => (op.step site).map fun s => [.login s]
  | database op => (op.step site).map fun s => [.database s]
  | distributor op => (op.step site).map fun s => [.distributor s]
  | publication op => (op.step site).map fun s => [.publication s]
  | subscription op => (op.step site).map fun s => [.pullSubscription s]
  | backup op => (op.step site).map fun s => [.backup s]
  | restore op => (op.step site).map fun s => [.restore s]
  | mirroring op => op.steps site

end Operation

/-- The steps of operations in order. -/
def operationSteps (site : Site) : List Operation → Except PlanError (List Step)
  | [] => .ok []
  | op :: r => do
    let steps ← op.steps site
    let rest ← operationSteps site r
    return steps ++ rest

/-- The steps of blocks in order: the name of a block is expanded before its operations. -/
def blockSteps (params : Params) (base : String) : List Block → Except PlanError (List Step)
  | [] => .ok []
  | b :: r => do
    let instanceName ← b.name.expand params
    let steps ← operationSteps ⟨params, base, instanceName⟩ b.operations
    let rest ← blockSteps params base r
    return steps ++ rest

/-- The targets of a plan, each with its steps. -/
def planTargets (params : Params) (base : String) :
    List (String × Target) → Except PlanError (List (String × PlanTarget))
  | [] => .ok []
  | (name, t) :: r => do
    let steps ← blockSteps params base t.blocks
    let rest ← planTargets params base r
    return (name, ⟨t.dependsOn, steps⟩) :: rest

namespace Manifest

/-- What is wrong with a dependency of a target, if anything is. -/
def dependencyError? (m : Manifest) (target dependency : String) : Option PlanError :=
  if dependency = target then some (.selfDependency target)
  else if m.targets.has dependency then none
  else some (.unknownDependency target dependency)

/-- The first dependency that is the target itself or no target. -/
def firstDependencyError? (m : Manifest) : Option PlanError :=
  m.targets.entries.findSome? fun (name, t) => t.dependsOn.findSome? (m.dependencyError? name)

/-- The base of file references: the one that is given, else the directory of the manifest, and
the current directory if that is empty. -/
def base (m : Manifest) (given : Option String) : String :=
  ((given.or m.sourceDir?).filter (!·.isEmpty)).getD "."

/-- The plan of a manifest. -/
def compile (m : Manifest) (supplied : Params) (base? : Option String) : Except PlanError Plan := do
  let params ← resolveParams m.parameters supplied
  if let some e := m.firstDependencyError? then throw e
  let targets ← planTargets params (m.base base?) m.targets.entries
  return ⟨Listing.ofList targets⟩

end Manifest

end Rollout
