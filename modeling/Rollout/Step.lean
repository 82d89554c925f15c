import Rollout.RecoveryModel
import Rollout.Text.Blank
import Rollout.Text.Cut
import Rollout.Text.Json

/-!
# Steps

A step is a concrete unit of work on one instance, with no templates left. It has a short
description and a JSON form in which passwords are replaced by a marker.
-/

namespace Rollout

/-- A published table. -/
structure Article where
  schema : String
  table : String
  deriving DecidableEq

/-- The article that `table` or `schema.table` names; a bare table is in the schema `dbo`. -/
def Article.parse (text : String) : Article :=
  match Text.cutAt '.' text.toList with
  | some (schema, table) =>
    ⟨String.ofList (Text.trimChars schema), String.ofList (Text.trimChars table)⟩
  | none => ⟨"dbo", Text.trim text⟩

namespace Step

/-- Ensures that a login exists and has roles. -/
structure Login where
  instanceName : String
  name : String
  password : Option String
  defaultDatabase : Option String
  serverRoles : List String
  deriving DecidableEq

/-- Ensures that a database exists with its settings, and runs scripts in it. -/
structure Database where
  instanceName : String
  name : String
  recoveryModel : Option RecoveryModel
  owner : Option String
  scripts : List String
  deriving DecidableEq

/-- Ensures that the instance is a distributor and a publisher on itself. -/
structure Distributor where
  instanceName : String
  databaseName : Option String
  adminPassword : Option String
  minRetention : Option Int
  maxRetention : Option Int
  historyRetention : Option Int
  snapshotPath : Option String
  deriving DecidableEq

/-- Ensures that a publication exists with its agent and articles. -/
structure Publication where
  instanceName : String
  databaseName : String
  name : String
  distributorInstance : Option String
  description : Option String
  articles : List Article
  deriving DecidableEq

/-- Ensures that a pull subscription to a publication is in place. -/
structure PullSubscription where
  instanceName : String
  databaseName : String
  publisherInstance : String
  publisherDatabaseName : String
  publicationName : String
  deriving DecidableEq

/-- Takes a full backup to a file. -/
structure Backup where
  instanceName : String
  databaseName : String
  path : String
  copyOnly : Bool
  deriving DecidableEq

/-- Restores a database from a backup file. -/
structure Restore where
  instanceName : String
  databaseName : String
  path : String
  recovery : Bool
  deriving DecidableEq

/-- Ensures that an endpoint for mirroring listens. -/
structure MirroringEndpoint where
  instanceName : String
  port : Nat
  deriving DecidableEq

/-- Points one side of a mirroring session at the other. -/
structure MirroringPartner where
  instanceName : String
  databaseName : String
  partnerAddress : String
  deriving DecidableEq

/-- The database of a distributor for which none is named. -/
def Distributor.database (s : Distributor) : String :=
  s.databaseName.getD "distribution"

end Step

/-- A concrete unit of work. -/
inductive Step where
  | login (s : Step.Login)
  | database (s : Step.Database)
  | distributor (s : Step.Distributor)
  | publication (s : Step.Publication)
  | pullSubscription (s : Step.PullSubscription)
  | backup (s : Step.Backup)
  | restore (s : Step.Restore)
  | mirroringEndpoint (s : Step.MirroringEndpoint)
  | mirroringPartner (s : Step.MirroringPartner)
  deriving DecidableEq

namespace Step

/-- The instance that a step is bound to. -/
def instanceName : Step → String
  | login s => s.instanceName
  | database s => s.instanceName
  | distributor s => s.instanceName
  | publication s => s.instanceName
  | pullSubscription s => s.instanceName
  | backup s => s.instanceName
  | restore s => s.instanceName
  | mirroringEndpoint s => s.instanceName
  | mirroringPartner s => s.instanceName

/-- A short description of a step. -/
def describe : Step → String
  | login s => "login " ++ s.name
  | database s => "database " ++ s.name
  | distributor s => "distributor " ++ s.database
  | publication s => "publication " ++ s.databaseName ++ "." ++ s.name
  | pullSubscription s =>
    "pull subscription " ++ s.databaseName ++ " <- " ++ s.publisherInstance ++ "." ++
      s.publisherDatabaseName ++ "." ++ s.publicationName
  | backup s => "backup " ++ s.databaseName ++ " -> " ++ s.path
  | restore s => "restore " ++ s.databaseName ++ " <- " ++ s.path
  | mirroringEndpoint s => "mirroring endpoint :" ++ toString s.port
  | mirroringPartner s => "mirroring partner " ++ s.databaseName ++ " -> " ++ s.partnerAddress

/-- A secret in JSON: a marker that does not depend on it. -/
def redacted : Option String → Json
  | some _ => .text "***"
  | none => .null

/-- An article in JSON. -/
def articleJson (a : Article) : Json :=
  .object [("schema", .text a.schema), ("table", .text a.table)]

/-- Texts in JSON. -/
def textsJson (ss : List String) : Json :=
  .list (ss.map .text)

/-- A step in JSON: its kind, then its fields in order, with secrets redacted. -/
def toJson : Step → Json
  | login s => .object
    [("type", .text "login"), ("instance", .text s.instanceName), ("name", .text s.name),
      ("password", redacted s.password), ("default_database", .ofText? s.defaultDatabase),
      ("server_roles", textsJson s.serverRoles)]
  | database s => .object
    [("type", .text "database"), ("instance", .text s.instanceName), ("name", .text s.name),
      ("recovery_model", .ofText? (s.recoveryModel.map RecoveryModel.word)),
      ("owner", .ofText? s.owner), ("scripts", textsJson s.scripts)]
  | distributor s => .object
    [("type", .text "distributor"), ("instance", .text s.instanceName),
      ("database_name", .ofText? s.databaseName), ("admin_password", redacted s.adminPassword),
      ("min_retention", .ofNumber? s.minRetention), ("max_retention", .ofNumber? s.maxRetention),
      ("history_retention", .ofNumber? s.historyRetention),
      ("snapshot_path", .ofText? s.snapshotPath)]
  | publication s => .object
    [("type", .text "publication"), ("instance", .text s.instanceName),
      ("database_name", .text s.databaseName), ("name", .text s.name),
      ("distributor_instance", .ofText? s.distributorInstance),
      ("description", .ofText? s.description), ("articles", .list (s.articles.map articleJson))]
  | pullSubscription s => .object
    [("type", .text "pull_subscription"), ("instance", .text s.instanceName),
      ("database_name", .text s.databaseName), ("publisher_instance", .text s.publisherInstance),
      ("publisher_database_name", .text s.publisherDatabaseName),
      ("publication_name", .text s.publicationName)]
  | backup s => .object
    [("type", .text "backup"), ("instance", .text s.instanceName),
      ("database_name", .text s.databaseName), ("path", .text s.path),
      ("copy_only", .flag s.copyOnly)]
  | restore s => .object
    [("type", .text "restore"), ("instance", .text s.instanceName),
      ("database_name", .text s.databaseName), ("path", .text s.path),
      ("recovery", .flag s.recovery)]
  | mirroringEndpoint s => .object
    [("type", .text "mirroring_endpoint"), ("instance", .text s.instanceName),
      ("port", .number s.port)]
  | mirroringPartner s => .object
    [("type", .text "mirroring_partner"), ("instance", .text s.instanceName),
      ("database_name", .text s.databaseName), ("partner_address", .text s.partnerAddress)]

end Step

end Rollout
