import Rollout.Proofs.Run.Sending
import Rollout.Proofs.Step.Quoting
import Rollout.Step.Activity

/-!
# Statements

Every statement that a step makes of its fields, with the texts that stand in it as values. What a
step sends is one of them, or a script of a database, whatever the step is answered
(`sends_activity`); and no text gets into the code of a statement (`Statement.sameCode_blank`).
-/

namespace Rollout.Step

open Rollout.Sql

/-- A statement that a step makes of its fields. The texts beside a step are those of its lists, and
the articles that a query has brought. -/
inductive Statement where
  | createLogin (s : Login)
  | addRole (s : Login) (role : String)
  | createDatabase (s : Database)
  | setRecoveryModel (s : Database) (model : RecoveryModel)
  | setOwner (s : Database) (owner : String)
  | startAgent (s : Distributor)
  | addDistributor (s : Distributor)
  | addDistributionDatabase (s : Distributor)
  | addPublisher (s : Distributor)
  | addRemoteDistributor (s : Publication) (remote : String)
  | enablePublishing (s : Publication)
  | addPublication (s : Publication)
  | addSnapshotAgent (s : Publication)
  | addArticle (s : Publication) (article : Article)
  | startSnapshot (s : Publication)
  | addSubscription (s : PullSubscription)
  | queryArticles (s : PullSubscription)
  | subscribeArticle (s : PullSubscription) (article : String)
  | addPullSubscription (s : PullSubscription)
  | addSubscriptionAgent (s : PullSubscription)
  | restartSnapshot (s : PullSubscription)
  | takeBackup (s : Backup)
  | restoreDatabase (s : Restore)
  | makeEndpoint (s : MirroringEndpoint)
  | setPartner (s : MirroringPartner)

namespace Statement

/-- The step that a statement is of. -/
def step : Statement → Step
  | createLogin s | addRole s _ => .login s
  | createDatabase s | setRecoveryModel s _ | setOwner s _ => .database s
  | startAgent s | addDistributor s | addDistributionDatabase s | addPublisher s => .distributor s
  | addRemoteDistributor s _ | enablePublishing s | addPublication s | addSnapshotAgent s
  | addArticle s _ | startSnapshot s => .publication s
  | addSubscription s | queryArticles s | subscribeArticle s _ | addPullSubscription s
  | addSubscriptionAgent s | restartSnapshot s => .pullSubscription s
  | takeBackup s => .backup s
  | restoreDatabase s => .restore s
  | makeEndpoint s => .mirroringEndpoint s
  | setPartner s => .mirroringPartner s

/-- The T-SQL of a statement. -/
def sql : Statement → String
  | createLogin s => s.createScript
  | addRole s role => s.roleScript role
  | createDatabase s => s.createScript
  | setRecoveryModel s model => s.recoveryScript model
  | setOwner s owner => s.ownerScript owner
  | startAgent _ => Distributor.startAgentScript
  | addDistributor s => s.addDistributorScript
  | addDistributionDatabase s => s.addDatabaseScript
  | addPublisher s => s.addPublisherScript
  | addRemoteDistributor _ remote => Publication.addRemoteDistributorScript remote
  | enablePublishing s => s.enablePublishingScript
  | addPublication s => s.addPublicationScript
  | addSnapshotAgent s => s.addSnapshotAgentScript
  | addArticle s article => s.addArticleScript article
  | startSnapshot s => startSnapshotScript s.name
  | addSubscription s => s.addSubscriptionScript
  | queryArticles s => s.articlesQuery
  | subscribeArticle s article => s.addArticleScript article
  | addPullSubscription s => s.addPullSubscriptionScript
  | addSubscriptionAgent s => s.addAgentScript
  | restartSnapshot s => startSnapshotScript s.publicationName
  | takeBackup s => s.backupScript
  | restoreDatabase s => s.restoreScript
  | makeEndpoint s => s.endpointScript
  | setPartner s => s.partnerScript

/-- The statement with every text emptied: it keeps which fields are present, and the numbers, the
flags and the recovery model. -/
def blank : Statement → Statement
  | createLogin s => createLogin s.blank
  | addRole s _ => addRole s.blank ""
  | createDatabase s => createDatabase s.blank
  | setRecoveryModel s model => setRecoveryModel s.blank model
  | setOwner s _ => setOwner s.blank ""
  | startAgent s => startAgent s.blank
  | addDistributor s => addDistributor s.blank
  | addDistributionDatabase s => addDistributionDatabase s.blank
  | addPublisher s => addPublisher s.blank
  | addRemoteDistributor s _ => addRemoteDistributor s.blank ""
  | enablePublishing s => enablePublishing s.blank
  | addPublication s => addPublication s.blank
  | addSnapshotAgent s => addSnapshotAgent s.blank
  | addArticle s _ => addArticle s.blank ⟨"", ""⟩
  | startSnapshot s => startSnapshot s.blank
  | addSubscription s => addSubscription s.blank
  | queryArticles s => queryArticles s.blank
  | subscribeArticle s _ => subscribeArticle s.blank ""
  | addPullSubscription s => addPullSubscription s.blank
  | addSubscriptionAgent s => addSubscriptionAgent s.blank
  | restartSnapshot s => restartSnapshot s.blank
  | takeBackup s => takeBackup s.blank
  | restoreDatabase s => restoreDatabase s.blank
  | makeEndpoint s => makeEndpoint s.blank
  | setPartner s => setPartner s.blank

/-- The values of the texts and names of a statement: those of its step, and some that are always
the same. -/
def values : Statement → List String
  | createLogin s => s.name :: s.name :: (s.password.toList ++ s.defaultDatabase.toList)
  | addRole s role => [role, s.name, role, s.name]
  | createDatabase s => [s.name, s.name]
  | setRecoveryModel s model => [s.name, model.keyword, s.name]
  | setOwner s owner => [s.name, owner, s.name, owner]
  | startAgent _ => ["START", "SQLServerAGENT"]
  | addDistributor s => s.adminPassword.toList
  | addDistributionDatabase s => [s.database, s.database]
  | addPublisher s => s.database :: s.snapshotPath.toList
  | addRemoteDistributor _ remote => [remote]
  | enablePublishing s => [s.databaseName, "IsPublished", s.databaseName, "publish", "true"]
  | addPublication s =>
    [s.name, s.name, "active", "true", "continuous"] ++ s.description.toList
  | addSnapshotAgent s => [s.name, s.name]
  | addArticle s a => [s.name, a.table, s.name, a.table, a.schema, a.table]
  | startSnapshot s => [s.name]
  | addSubscription s => s.instanceName :: s.databaseName :: s.callValues "all"
  | queryArticles s => ["", s.instanceName, s.publicationName]
  | subscribeArticle s article => s.instanceName :: article :: s.callValues article
  | addPullSubscription s =>
    ["dbo.MSreplication_subscriptions",
      "SELECT @e = COUNT(*) FROM dbo.MSreplication_subscriptions " ++
        "WHERE publisher = @p AND publisher_db = @d AND publication = @n",
      "@e int OUTPUT, @p sysname, @d sysname, @n sysname", s.publisherInstance,
      s.publisherDatabaseName, s.publicationName, s.publisherInstance, s.publisherDatabaseName,
      s.publicationName, "read only"]
  | addSubscriptionAgent s =>
    [s.publisherInstance, s.publisherDatabaseName, s.publicationName, s.instanceName,
      s.databaseName]
  | restartSnapshot s => [s.publicationName]
  | takeBackup s => [s.databaseName, "D", s.path, s.databaseName, s.path]
  | restoreDatabase s => [s.databaseName, s.databaseName, s.path]
  | makeEndpoint _ => ["Mirroring"]
  | setPartner s => [s.databaseName, s.databaseName, s.partnerAddress]

/-- What stands beside the step in a statement is in a field of the step. The articles that are
subscribed to are brought by a query. -/
def FromFields : Statement → Prop
  | addRole s role => role ∈ s.serverRoles
  | setRecoveryModel s model => s.recoveryModel = some model
  | setOwner s owner => s.owner = some owner
  | addRemoteDistributor s remote => s.distributorInstance = some remote
  | addArticle s article => article ∈ s.articles
  | _ => True

/-- To empty the texts of a statement leaves its code as it is. -/
theorem sameCode_blank (st : Statement) : SameCode st.sql st.blank.sql st.values := by
  have hpresent (o : Option String) : o.isSome = (o.map fun _ => "").isSome := by simp
  cases st with
  | createLogin s => exact s.sameCode_createScript _ (hpresent _) (hpresent _)
  | addRole s role => exact s.sameCode_roleScript _ role _
  | createDatabase s => exact s.sameCode_createScript _
  | setRecoveryModel s model => exact s.sameCode_recoveryScript _ model
  | setOwner s owner => exact s.sameCode_ownerScript _ owner _
  | startAgent s => exact Distributor.sameCode_startAgentScript
  | addDistributor s => exact s.sameCode_addDistributorScript _ (hpresent _)
  | addDistributionDatabase s => exact s.sameCode_addDatabaseScript _ rfl rfl rfl
  | addPublisher s => exact s.sameCode_addPublisherScript _ (hpresent _)
  | addRemoteDistributor s remote =>
    exact Publication.sameCode_addRemoteDistributorScript remote _
  | enablePublishing s => exact s.sameCode_enablePublishingScript _
  | addPublication s => exact s.sameCode_addPublicationScript _ (hpresent _)
  | addSnapshotAgent s => exact s.sameCode_addSnapshotAgentScript _
  | addArticle s article => exact s.sameCode_addArticleScript _ article _
  | startSnapshot s => exact sameCode_startSnapshotScript _ _
  | addSubscription s => exact s.sameCode_addSubscriptionScript _
  | queryArticles s => exact s.sameCode_articlesQuery _
  | subscribeArticle s article => exact s.sameCode_addArticleScript _ article _
  | addPullSubscription s => exact s.sameCode_addPullSubscriptionScript _
  | addSubscriptionAgent s => exact s.sameCode_addAgentScript _
  | restartSnapshot s => exact sameCode_startSnapshotScript _ _
  | takeBackup s => exact s.sameCode_backupScript _ rfl
  | restoreDatabase s => exact s.sameCode_restoreScript _ rfl
  | makeEndpoint s => exact s.sameCode_endpointScript _ rfl
  | setPartner s => exact s.sameCode_partnerScript _

end Statement

/-- What a step may send: it connects, sends statements that it makes itself, and, if it is that of
a database, sends the text of its scripts. -/
inductive Sent (files : Files) (step : Step) : Trip → Prop where
  | connect (instanceName : String) : Sent files step (.connect instanceName)
  | statement {trip : Trip} (st : Statement) (hstep : st.step = step) (hfields : st.FromFields)
    (hsql : trip.sql = st.sql) : Sent files step trip
  | script {trip : Trip} (s : Database) (path : String) (hstep : step = .database s)
    (hpath : path ∈ s.scripts) (hsql : files path = .ok trip.sql) : Sent files step trip

open Activity Session

/-- A step of one statement connects and sends it. -/
theorem sends_single {files : Files} {step : Step} (instanceName : String) (st : Statement)
    (hstep : st.step = step) (hfields : st.FromFields) :
    (single instanceName st.sql).Sends (Sent files step) :=
  (sends_connect (.connect _)).bind fun _ => sends_execute (.statement st hstep hfields rfl)

section Coverage

variable (files : Files)

/-- A login sends its creation and one statement for each of its roles. -/
theorem Login.sends_activity (s : Login) : s.activity.Sends (Sent files (.login s)) := by
  refine (sends_connect (.connect _)).bind fun session => ?_
  refine (sends_execute (.statement (.createLogin s) rfl trivial rfl)).bind fun _ => ?_
  refine sends_executeAll fun sql hsql => ?_
  obtain ⟨role, hrole, rfl⟩ := List.mem_map.1 hsql
  exact .statement (.addRole s role) rfl hrole rfl

/-- The texts that are read are those of the files. -/
theorem exists_file_of_readAll {paths texts : List String} (h : readAll files paths = .ok texts) :
    ∀ text ∈ texts, ∃ path ∈ paths, files path = .ok text := by
  induction paths generalizing texts with
  | nil =>
    cases h
    simp
  | cons path r ih =>
    unfold readAll at h
    cases hfile : files path with
    | error message => simp [hfile] at h
    | ok text =>
      cases hrest : readAll files r with
      | error e => simp [hfile, hrest, Except.map] at h
      | ok rest =>
        simp only [hfile, hrest, Except.map, Except.ok.injEq] at h
        subst h
        simp only [List.forall_mem_cons]
        refine ⟨⟨path, by simp, hfile⟩, fun other hother => ?_⟩
        obtain ⟨p, hp, hf⟩ := ih hrest other hother
        exact ⟨p, List.mem_cons_of_mem _ hp, hf⟩

/-- A database sends its creation, the settings that are given, and its scripts. -/
theorem Database.sends_activity (s : Database) :
    (s.activity files).Sends (Sent files (.database s)) := by
  unfold activity
  cases htexts : readAll files s.scripts with
  | error e => exact .fail e
  | ok texts =>
    refine (sends_connect (.connect _)).bind fun session => ?_
    refine (sends_execute (.statement (.createDatabase s) rfl trivial rfl)).bind fun _ => ?_
    -- a setting that is not given has no batch
    refine (sends_executeAll fun sql hsql => ?_).bind fun _ => ?_
    · obtain ⟨model, hmodel, rfl⟩ := Option.map_eq_some_iff.1 (Option.mem_toList.1 hsql)
      exact .statement (.setRecoveryModel s model) rfl hmodel rfl
    refine (sends_executeAll fun sql hsql => ?_).bind fun _ => ?_
    · obtain ⟨owner, howner, rfl⟩ := Option.map_eq_some_iff.1 (Option.mem_toList.1 hsql)
      exact .statement (.setOwner s owner) rfl howner rfl
    refine sends_executeAll fun sql hsql => ?_
    obtain ⟨path, hpath, hfile⟩ := exists_file_of_readAll files htexts sql hsql
    exact .script s path rfl hpath hfile

/-- A distributor starts the agent and sends its three statements. -/
theorem Distributor.sends_activity (s : Distributor) :
    s.activity.Sends (Sent files (.distributor s)) := by
  refine (sends_connect (.connect _)).bind fun session => ?_
  refine (sends_execute (.statement (.startAgent s) rfl trivial rfl)).tolerant.bind fun _ => ?_
  refine sends_executeAll fun sql hsql => ?_
  simp only [List.mem_cons, List.not_mem_nil, or_false] at hsql
  rcases hsql with rfl | rfl | rfl
  · exact .statement (.addDistributor s) rfl trivial rfl
  · exact .statement (.addDistributionDatabase s) rfl trivial rfl
  · exact .statement (.addPublisher s) rfl trivial rfl

/-- A publication sends the statement for a remote distributor only if it has one, and one for each
of its articles. -/
theorem Publication.sends_activity (s : Publication) :
    s.activity.Sends (Sent files (.publication s)) := by
  refine (sends_connect (.connect _)).bind fun session => ?_
  refine (sends_executeAll fun sql hsql => ?_).bind fun _ => ?_
  · unfold remoteDistributorScript? at hsql
    split at hsql
    · cases hsql
    · rename_i remote hremote
      split at hsql
      · cases hsql
      · obtain rfl := List.mem_singleton.1 hsql
        exact .statement (.addRemoteDistributor s remote) rfl hremote rfl
  refine (sends_execute (.statement (.enablePublishing s) rfl trivial rfl)).bind fun _ => ?_
  refine (sends_execute (.statement (.addPublication s) rfl trivial rfl)).bind fun _ => ?_
  refine (sends_execute (.statement (.addSnapshotAgent s) rfl trivial rfl)).bind fun _ => ?_
  refine (sends_executeAll fun sql hsql => ?_).bind fun _ => ?_
  · obtain ⟨article, harticle, rfl⟩ := List.mem_map.1 hsql
    exact .statement (.addArticle s article) rfl harticle rfl
  refine (sends_execute (.statement (.startSnapshot s) rfl trivial rfl)).tolerant.bind fun _ => ?_
  exact .done ()

/-- A subscription sends a statement for each article that its query has brought, whichever they
are. -/
theorem PullSubscription.sends_activity (s : PullSubscription) :
    s.activity.Sends (Sent files (.pullSubscription s)) := by
  refine (sends_connect (.connect _)).bind fun opened => ?_
  refine (sends_connect (.connect _)).bind fun opened' => ?_
  refine (sends_execute (.statement (.addSubscription s) rfl trivial rfl)).bind fun _ => ?_
  refine (sends_query (.statement (.queryArticles s) rfl trivial rfl)).bind fun rows => ?_
  refine (sends_executeAll fun sql hsql => ?_).bind fun _ => ?_
  · obtain ⟨article, -, rfl⟩ := List.mem_map.1 hsql
    exact .statement (.subscribeArticle s article) rfl trivial rfl
  refine (sends_execute (.statement (.addPullSubscription s) rfl trivial rfl)).bind fun _ => ?_
  refine .bind (.tolerant (sends_execute (.statement (.addSubscriptionAgent s) rfl trivial rfl)))
    fun _ => ?_
  exact .bind (.tolerant (sends_execute (.statement (.restartSnapshot s) rfl trivial rfl)))
    fun _ => .done ()

/-- A step sends nothing but the statements that it makes, and the scripts of a database. -/
theorem sends_activity (step : Step) : (step.activity files).Sends (Sent files step) := by
  cases step with
  | login s => exact s.sends_activity files
  | database s => exact s.sends_activity files
  | distributor s => exact s.sends_activity files
  | publication s => exact s.sends_activity files
  | pullSubscription s => exact s.sends_activity files
  | backup s => exact sends_single s.instanceName (.takeBackup s) rfl trivial
  | restore s => exact sends_single s.instanceName (.restoreDatabase s) rfl trivial
  | mirroringEndpoint s => exact sends_single s.instanceName (.makeEndpoint s) rfl trivial
  | mirroringPartner s => exact sends_single s.instanceName (.setPartner s) rfl trivial

end Coverage

/-- No text gets into the code of a statement. Whatever a step sends, scripts of databases apart, is
one of its statements, whatever it is answered; the skeleton of a statement is the one that it has
with all its texts emptied, and its values are the texts themselves. -/
theorem statements_keep_texts_quoted :
    (∀ (files : Files) (step : Step), (step.activity files).Sends (Sent files step)) ∧
      ∀ st : Statement, skeleton? st.sql = skeleton? st.blank.sql ∧
        values? st.sql = some st.values :=
  ⟨sends_activity, fun st => ⟨st.sameCode_blank.skeleton?_eq, st.sameCode_blank.values?_eq⟩⟩

end Rollout.Step
