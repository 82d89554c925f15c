import Rollout.Template

/-!
# Operations

What a manifest asks to be done on an instance. Every field is a template; a field that may be
absent is an option, and a field that may be given many times is a list.
-/

namespace Rollout

namespace Operation

/-- A login of the server, with roles. Without a password it is a login of the operating system. -/
structure Login where
  name : Template
  password : Option Template
  defaultDatabase : Option Template
  serverRoles : List Template

/-- A database with settings, and scripts to be run inside it. -/
structure Database where
  name : Template
  recoveryModel : Option Template
  owner : Option Template
  scripts : List Template

/-- The instance as its own distributor of replication. Retentions are hours. -/
structure Distributor where
  databaseName : Option Template
  adminPassword : Option Template
  minRetention : Option Template
  maxRetention : Option Template
  historyRetention : Option Template
  snapshotPath : Option Template

/-- A publication of tables. Without a distributor the publisher distributes for itself. -/
structure Publication where
  databaseName : Template
  name : Template
  distributorInstance : Option Template
  description : Option Template
  articles : List Template

/-- A pull subscription to a publication of another instance. -/
structure Subscription where
  databaseName : Template
  publisherInstance : Template
  publisherDatabaseName : Template
  publicationName : Template

/-- A full backup to a file. -/
structure Backup where
  databaseName : Template
  path : Template
  copyOnly : Option Template

/-- A database restored from a backup file. -/
structure Restore where
  databaseName : Template
  path : Template
  recovery : Option Template

/-- A mirror of a database on a partner. The addresses stand in for those made of instance and
port. -/
structure Mirroring where
  databaseName : Template
  partnerInstance : Template
  port : Option Template
  partnerAddress : Option Template
  principalAddress : Option Template

end Operation

/-- An operation of a manifest. -/
inductive Operation where
  | login (op : Operation.Login)
  | database (op : Operation.Database)
  | distributor (op : Operation.Distributor)
  | publication (op : Operation.Publication)
  | subscription (op : Operation.Subscription)
  | backup (op : Operation.Backup)
  | restore (op : Operation.Restore)
  | mirroring (op : Operation.Mirroring)

namespace Operation

/-- The word for the kind of an operation. -/
def kind : Operation → String
  | login _ => "login"
  | database _ => "database"
  | distributor _ => "distributor"
  | publication _ => "publication"
  | subscription _ => "subscription"
  | backup _ => "backup"
  | restore _ => "restore"
  | mirroring _ => "mirroring"

/-- The templates that an operation holds, in the order of its fields. -/
def templates : Operation → List Template
  | login op =>
    op.name :: op.password.toList ++ op.defaultDatabase.toList ++ op.serverRoles
  | database op => op.name :: op.recoveryModel.toList ++ op.owner.toList ++ op.scripts
  | distributor op =>
    op.databaseName.toList ++ op.adminPassword.toList ++ op.minRetention.toList ++
      op.maxRetention.toList ++ op.historyRetention.toList ++ op.snapshotPath.toList
  | publication op =>
    op.databaseName :: op.name :: op.distributorInstance.toList ++ op.description.toList ++
      op.articles
  | subscription op =>
    [op.databaseName, op.publisherInstance, op.publisherDatabaseName, op.publicationName]
  | backup op => op.databaseName :: op.path :: op.copyOnly.toList
  | restore op => op.databaseName :: op.path :: op.recovery.toList
  | mirroring op =>
    op.databaseName :: op.partnerInstance :: op.port.toList ++ op.partnerAddress.toList ++
      op.principalAddress.toList

end Operation

end Rollout
