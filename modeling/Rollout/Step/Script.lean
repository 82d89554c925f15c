import Rollout.Sql.Quote
import Rollout.Step
import Rollout.Text.Case

/-!
# The statements of steps

The T-SQL that each kind of step sends. A statement that changes something is guarded by a check,
so that a second run changes nothing. Every text that comes from a step is quoted, as a name or as
a string.
-/

namespace Rollout.Step

open Rollout.Sql (ident literal furtherArgs)

namespace Login

/-- The clauses behind `WITH` of a new login. -/
def withClauses (s : Login) : List String :=
  (s.password.map fun p => "PASSWORD = " ++ literal p).toList ++
    (s.defaultDatabase.map fun db => "DEFAULT_DATABASE = " ++ ident db).toList

/-- The statement that makes a login, whatever exists. -/
def create (s : Login) : String :=
  "CREATE LOGIN " ++ ident s.name ++ (if s.password.isNone then " FROM WINDOWS" else "") ++
    (if s.withClauses.isEmpty then "" else " WITH " ++ ", ".intercalate s.withClauses)

/-- Makes the login unless a principal of its name exists. -/
def createScript (s : Login) : String :=
  "IF NOT EXISTS (SELECT 1 FROM sys.server_principals WHERE name = " ++ literal s.name ++
    ")\n    " ++ s.create

/-- Gives the login a role unless it has it. -/
def roleScript (s : Login) (role : String) : String :=
  "IF ISNULL(IS_SRVROLEMEMBER(" ++ literal role ++ ", " ++ literal s.name ++
    "), 0) = 0\n    ALTER SERVER ROLE " ++ ident role ++ " ADD MEMBER " ++ ident s.name

end Login

namespace Database

/-- Makes the database unless it exists. -/
def createScript (s : Database) : String :=
  "IF DB_ID(" ++ literal s.name ++ ") IS NULL\n    CREATE DATABASE " ++ ident s.name

/-- Sets the recovery model unless it is set. -/
def recoveryScript (s : Database) (model : RecoveryModel) : String :=
  "IF EXISTS (SELECT 1 FROM sys.databases WHERE name = " ++ literal s.name ++
    " AND recovery_model_desc <> " ++ literal model.keyword ++ ")\n    ALTER DATABASE " ++
    ident s.name ++ " SET RECOVERY " ++ model.keyword

/-- Sets the owner unless it is the owner. -/
def ownerScript (s : Database) (owner : String) : String :=
  "IF NOT EXISTS (SELECT 1 FROM sys.databases d JOIN sys.server_principals p ON p.sid = " ++
    "d.owner_sid WHERE d.name = " ++ literal s.name ++ " AND p.name = " ++ literal owner ++
    ")\n    ALTER AUTHORIZATION ON DATABASE::" ++ ident s.name ++ " TO " ++ ident owner

end Database

namespace Distributor

/-- Starts the agent that runs the jobs of replication. -/
def startAgentScript : String :=
  "EXEC master.dbo.xp_servicecontrol N'START', N'SQLServerAGENT'"

/-- Registers the distributor unless there is one. -/
def addDistributorScript (s : Distributor) : String :=
  "DECLARE @server sysname = @@SERVERNAME;\n" ++
    "IF NOT EXISTS (SELECT 1 FROM sys.servers WHERE is_distributor = 1)\n    " ++
    "EXEC sp_adddistributor @distributor = @server" ++
    furtherArgs [("password", s.adminPassword.map literal)]

/-- Makes the distribution database unless it exists. -/
def addDatabaseScript (s : Distributor) : String :=
  "IF DB_ID(" ++ literal s.database ++ ") IS NULL\n    EXEC sp_adddistributiondb @database = " ++
    literal s.database ++ ", @security_mode = 1" ++
    furtherArgs
      [("min_distretention", s.minRetention.map toString),
        ("max_distretention", s.maxRetention.map toString),
        ("history_retention", s.historyRetention.map toString)]

/-- Registers the instance as a publisher unless it is one. -/
def addPublisherScript (s : Distributor) : String :=
  "DECLARE @server sysname = @@SERVERNAME;\n" ++
    "IF NOT EXISTS (SELECT 1 FROM msdb.dbo.MSdistpublishers WHERE name = @server)\n    " ++
    "EXEC sp_adddistpublisher @publisher = @server, @distribution_db = " ++ literal s.database ++
    ", @security_mode = 1" ++ furtherArgs [("working_directory", s.snapshotPath.map literal)]

end Distributor

/-- Starts the snapshot of a publication. -/
def startSnapshotScript (publication : String) : String :=
  "EXEC sp_startpublication_snapshot @publication = " ++ literal publication

namespace Publication

/-- Registers a remote distributor unless there is one. -/
def addRemoteDistributorScript (remote : String) : String :=
  "IF NOT EXISTS (SELECT 1 FROM sys.servers WHERE is_distributor = 1)\n    " ++
    "EXEC sp_adddistributor @distributor = " ++ literal remote

/-- Registers the remote distributor, if the step names one other than its own instance. -/
def remoteDistributorScript? (s : Publication) : Option String :=
  match s.distributorInstance with
  | none => none
  | some remote =>
    if Text.lowered remote = Text.lowered s.instanceName then none
    else some (addRemoteDistributorScript remote)

/-- Opens the database to publication unless it is open. -/
def enablePublishingScript (s : Publication) : String :=
  "IF ISNULL(DATABASEPROPERTYEX(" ++ literal s.databaseName ++ ", 'IsPublished'), 0) = 0\n    " ++
    "EXEC sp_replicationdboption @dbname = " ++ literal s.databaseName ++
    ", @optname = N'publish', @value = N'true'"

/-- Makes the publication unless it exists. -/
def addPublicationScript (s : Publication) : String :=
  "IF NOT EXISTS (SELECT 1 FROM syspublications WHERE name = " ++ literal s.name ++
    ")\n    EXEC sp_addpublication @publication = " ++ literal s.name ++
    ", @status = N'active', @allow_pull = N'true', @repl_freq = N'continuous'" ++
    furtherArgs [("description", s.description.map literal)]

/-- Gives the publication a snapshot agent unless it has one. -/
def addSnapshotAgentScript (s : Publication) : String :=
  "IF EXISTS (SELECT 1 FROM syspublications WHERE name = " ++ literal s.name ++
    " AND snapshot_jobid IS NULL)\n    EXEC sp_addpublication_snapshot @publication = " ++
    literal s.name

/-- The condition under which an article is not added again. -/
def articleGuard (s : Publication) (a : Article) : String :=
  "SELECT 1 FROM sysarticles a JOIN syspublications p ON p.pubid = a.pubid WHERE p.name = " ++
    literal s.name ++ " AND a.name = " ++ literal a.table

/-- Adds an article to the publication unless it is there. -/
def addArticleScript (s : Publication) (a : Article) : String :=
  "IF NOT EXISTS (" ++ s.articleGuard a ++ ")\n    EXEC sp_addarticle @publication = " ++
    literal s.name ++ ", @article = " ++ literal a.table ++ ", @source_owner = " ++
    literal a.schema ++ ", @source_object = " ++ literal a.table

end Publication

namespace PullSubscription

/-- The call that subscribes to an article. -/
def addSubscriptionCall (s : PullSubscription) (article : String) : String :=
  "EXEC sp_addsubscription @publication = " ++ literal s.publicationName ++ ", @subscriber = " ++
    literal s.instanceName ++ ", @destination_db = " ++ literal s.databaseName ++
    ", @subscription_type = N'Pull', @sync_type = N'automatic', @article = " ++ literal article ++
    ", @update_mode = N'read only', @subscriber_type = 0"

/-- The condition under which no subscription is added. -/
def subscriptionGuard (s : PullSubscription) : String :=
  "SELECT 1 FROM syssubscriptions WHERE srvname = " ++ literal s.instanceName ++
    " AND dest_db = " ++ literal s.databaseName

/-- At the publisher: subscribes to all articles unless there is a subscription. -/
def addSubscriptionScript (s : PullSubscription) : String :=
  "IF NOT EXISTS (" ++ s.subscriptionGuard ++ ")\n    " ++ s.addSubscriptionCall "all"

/-- At the publisher: every article, with the subscriber or an empty column if it lacks the
article. -/
def articlesQuery (s : PullSubscription) : String :=
  "SELECT DISTINCT a.name, COALESCE(u.srvname, N'')\nFROM syspublications p\n" ++
    "JOIN sysarticles a ON a.pubid = p.pubid\n" ++
    "LEFT JOIN syssubscriptions u ON u.artid = a.artid AND u.srvname = " ++
    literal s.instanceName ++ "\nWHERE p.name = " ++ literal s.publicationName

/-- The condition under which an article is not subscribed to again. -/
def articleGuard (s : PullSubscription) (article : String) : String :=
  "SELECT 1 FROM syssubscriptions u JOIN sysarticles a ON a.artid = u.artid WHERE u.srvname = " ++
    literal s.instanceName ++ " AND a.name = " ++ literal article

/-- At the publisher: subscribes to an article that came after the subscription. -/
def addArticleScript (s : PullSubscription) (article : String) : String :=
  "IF NOT EXISTS (" ++ s.articleGuard article ++ ")\n    " ++ s.addSubscriptionCall article

/-- At the subscriber: makes the pull subscription unless it exists. The table that tells is only
there once the database has a subscription, so it is asked by dynamic SQL. -/
def addPullSubscriptionScript (s : PullSubscription) : String :=
  "DECLARE @exists int = 0;\n" ++
    "IF OBJECT_ID(N'dbo.MSreplication_subscriptions') IS NOT NULL\n    " ++
    "EXEC sp_executesql N'SELECT @e = COUNT(*) FROM dbo.MSreplication_subscriptions " ++
    "WHERE publisher = @p AND publisher_db = @d AND publication = @n', " ++
    "N'@e int OUTPUT, @p sysname, @d sysname, @n sysname', @e = @exists OUTPUT, @p = " ++
    literal s.publisherInstance ++ ", @d = " ++ literal s.publisherDatabaseName ++ ", @n = " ++
    literal s.publicationName ++ ";\nIF @exists = 0\n    " ++
    "EXEC sp_addpullsubscription @publisher = " ++ literal s.publisherInstance ++
    ", @publisher_db = " ++ literal s.publisherDatabaseName ++ ", @publication = " ++
    literal s.publicationName ++ ", @update_mode = N'read only'"

/-- At the subscriber: gives the pull subscription its agent. -/
def addAgentScript (s : PullSubscription) : String :=
  "EXEC sp_addpullsubscription_agent @publisher = " ++ literal s.publisherInstance ++
    ", @publisher_db = " ++ literal s.publisherDatabaseName ++ ", @publication = " ++
    literal s.publicationName ++ ", @subscriber = " ++ literal s.instanceName ++
    ", @subscriber_db = " ++ literal s.databaseName ++ ", @subscriber_security_mode = 1"

end PullSubscription

namespace Backup

/-- Takes the backup unless the file holds one of the database. -/
def backupScript (s : Backup) : String :=
  "IF NOT EXISTS (SELECT 1 FROM msdb.dbo.backupset b JOIN msdb.dbo.backupmediafamily m ON " ++
    "m.media_set_id = b.media_set_id WHERE b.database_name = " ++ literal s.databaseName ++
    " AND b.type = 'D' AND m.physical_device_name = " ++ literal s.path ++
    ")\n    BACKUP DATABASE " ++ ident s.databaseName ++ " TO DISK = " ++ literal s.path ++
    " WITH " ++ (if s.copyOnly then "INIT, COPY_ONLY" else "INIT")

end Backup

namespace Restore

/-- Restores the database unless it exists. -/
def restoreScript (s : Restore) : String :=
  "IF DB_ID(" ++ literal s.databaseName ++ ") IS NULL\n    RESTORE DATABASE " ++
    ident s.databaseName ++ " FROM DISK = " ++ literal s.path ++ " WITH " ++
    (if s.recovery then "RECOVERY" else "NORECOVERY")

end Restore

namespace MirroringEndpoint

/-- Makes the endpoint unless there is one. -/
def endpointScript (s : MirroringEndpoint) : String :=
  "IF NOT EXISTS (SELECT 1 FROM sys.database_mirroring_endpoints)\n    CREATE ENDPOINT " ++
    ident "Mirroring" ++ " STATE = STARTED AS TCP (LISTENER_PORT = " ++ toString s.port ++
    ") FOR DATABASE_MIRRORING (ROLE = PARTNER)"

end MirroringEndpoint

namespace MirroringPartner

/-- Points the database at its partner unless it is mirrored. -/
def partnerScript (s : MirroringPartner) : String :=
  "IF EXISTS (SELECT 1 FROM sys.database_mirroring WHERE database_id = DB_ID(" ++
    literal s.databaseName ++ ") AND mirroring_guid IS NULL)\n    ALTER DATABASE " ++
    ident s.databaseName ++ " SET PARTNER = " ++ literal s.partnerAddress

end MirroringPartner

end Rollout.Step
