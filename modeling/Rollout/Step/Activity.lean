import Rollout.Run.Session
import Rollout.Step.Script

/-!
# What steps do

The activity of each kind of step: the sessions it opens and the batches it sends, in order. A step
ends at the first failure, except that the failure of an agent or a snapshot to start is passed
over.
-/

namespace Rollout

/-- The text of a file by its path, or why it cannot be read. -/
abbrev Files := String → Except String String

namespace Step

/-- The texts of files in order, up to the first that cannot be read. -/
def readAll (files : Files) : List String → Except StepError (List String)
  | [] => .ok []
  | path :: r => match files path with
    | .error message => .error (.io path message)
    | .ok text => (readAll files r).map (text :: ·)

/-- Ensures a login, then its roles. -/
def Login.activity (s : Login) : Activity StepError Unit := do
  let session ← Session.connect s.instanceName
  session.execute s.createScript
  session.executeAll (s.serverRoles.map s.roleScript)

/-- Ensures a database, then its recovery model and its owner where they are given, and then runs
its scripts inside it. The scripts are read before anything is sent. -/
def Database.activity (files : Files) (s : Database) : Activity StepError Unit := do
  let texts ← Activity.ofResult (readAll files s.scripts)
  let session ← Session.connect s.instanceName
  session.execute s.createScript
  session.executeAll (s.recoveryModel.map s.recoveryScript).toList
  session.executeAll (s.owner.map s.ownerScript).toList
  (session.use s.name).executeAll texts

/-- Ensures a distributor. The agent may be running already, or be managed elsewhere. -/
def Distributor.activity (s : Distributor) : Activity StepError Unit := do
  let session ← Session.connect s.instanceName
  let _ ← (session.execute Distributor.startAgentScript).tolerant
  session.executeAll [s.addDistributorScript, s.addDatabaseScript, s.addPublisherScript]

/-- Ensures a publication, its articles and its snapshot. -/
def Publication.activity (s : Publication) : Activity StepError Unit := do
  let session ← Session.connect s.instanceName
  session.executeAll s.remoteDistributorScript?.toList
  session.execute s.enablePublishingScript
  let inside := session.use s.databaseName
  inside.execute s.addPublicationScript
  inside.execute s.addSnapshotAgentScript
  inside.executeAll (s.articles.map s.addArticleScript)
  let _ ← (inside.execute (startSnapshotScript s.name)).tolerant
  return ()

/-- The articles, named in the first column, that have no subscriber in the second. -/
def missingArticles (rows : List Row) : List String :=
  rows.filterMap fun row =>
    let article := row.head?.getD ""
    let subscriber := row[1]?.getD ""
    if !article.isEmpty && subscriber.isEmpty then some article else none

/-- Ensures a pull subscription at the publisher, which is asked for articles that it lacks, and
then at the subscriber. -/
def PullSubscription.activity (s : PullSubscription) : Activity StepError Unit := do
  let opened ← Session.connect s.instanceName
  let subscriber := opened.use s.databaseName
  let opened ← Session.connect s.publisherInstance
  let publisher := opened.use s.publisherDatabaseName
  publisher.execute s.addSubscriptionScript
  let rows ← publisher.query s.articlesQuery
  publisher.executeAll ((missingArticles rows).map s.addArticleScript)
  subscriber.execute s.addPullSubscriptionScript
  let _ ← (subscriber.execute s.addAgentScript).tolerant
  let _ ← (publisher.execute (startSnapshotScript s.publicationName)).tolerant
  return ()

/-- Opens a session and sends one batch. -/
def single (instanceName sql : String) : Activity StepError Unit := do
  let session ← Session.connect instanceName
  session.execute sql

/-- What a step does. -/
def activity (files : Files) : Step → Activity StepError Unit
  | login s => s.activity
  | database s => s.activity files
  | distributor s => s.activity
  | publication s => s.activity
  | pullSubscription s => s.activity
  | backup s => single s.instanceName s.backupScript
  | restore s => single s.instanceName s.restoreScript
  | mirroringEndpoint s => single s.instanceName s.endpointScript
  | mirroringPartner s => single s.instanceName s.partnerScript

end Step

end Rollout
