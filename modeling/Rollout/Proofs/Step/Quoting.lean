import Rollout.Proofs.Sql.Token
import Rollout.Step.Script

/-!
# Texts in statements

The code of a statement is the same for any two steps of a kind that have the same fields present,
and the same numbers, flags and recovery models in them. The texts of the steps are values in it, in
the order that stands with each statement (`SameCode`). The texts of a step are emptied by `blank`,
which leaves the code of its statements as it is.
-/

namespace Rollout.Step

open Rollout.Sql

theorem both_or_neither {α : Type} {o o' : Option α} (h : o.isSome = o'.isSome) :
    (∃ a a', o = some a ∧ o' = some a') ∨ o = none ∧ o' = none := by
  cases o <;> cases o' <;> simp_all

/-- An argument of a procedure call that is a text in quotes, if it is there, is its value. -/
theorem sameCode_textArgument {name : String} {cs : List Char} (hname : name = String.ofList cs)
    (hcs : cs.all isCode = true) {o o' : Option String} (h : o.isSome = o'.isSome) :
    SameCode (furtherArgs [(name, o.map literal)]) (furtherArgs [(name, o'.map literal)])
      o.toList := by
  rcases both_or_neither h with ⟨v, v', rfl, rfl⟩ | ⟨rfl, rfl⟩
  · simp only [Option.map_some, furtherArgs, String.append_assoc]
    exact .codeThen rfl rfl <| .codeThen hname hcs <| .codeThen rfl rfl <| .literalThen _ _ .empty
  · exact .empty

/-- An argument that is a number, if it is there, is code in front of the other arguments. -/
theorem sameCode_numberArgument (name : String) {cs : List Char} (hname : name = String.ofList cs)
    (hcs : cs.all isCode = true) (o : Option Int) {args : List (String × Option String)}
    (h : SameCode (furtherArgs args) (furtherArgs args) []) :
    SameCode (furtherArgs ((name, o.map toString) :: args))
      (furtherArgs ((name, o.map toString) :: args)) [] := by
  cases o with
  | none => exact h
  | some n =>
    simp only [Option.map_some, furtherArgs, String.append_assoc]
    exact .codeThen rfl rfl <| .codeThen hname hcs <| .codeThen rfl rfl <| .append (.int n) h

namespace Login

/-- A login with every text emptied. -/
def blank (s : Login) : Login :=
  ⟨"", "", s.password.map fun _ => "", s.defaultDatabase.map fun _ => "", []⟩

variable (s s' : Login)

/-- The password and the default database are the values of the clauses, each where it is there. -/
theorem sameCode_clauses (hp : s.password.isSome = s'.password.isSome)
    (hd : s.defaultDatabase.isSome = s'.defaultDatabase.isSome) :
    SameCode (if s.withClauses.isEmpty then "" else " WITH " ++ ", ".intercalate s.withClauses)
      (if s'.withClauses.isEmpty then "" else " WITH " ++ ", ".intercalate s'.withClauses)
      (s.password.toList ++ s.defaultDatabase.toList) := by
  unfold withClauses
  rcases both_or_neither hp with ⟨p, p', hp, hp'⟩ | ⟨hp, hp'⟩ <;>
    rcases both_or_neither hd with ⟨d, d', hd, hd'⟩ | ⟨hd, hd'⟩ <;>
    simp only [hp, hp', hd, hd', Option.map_some, Option.map_none, Option.toList_some,
      Option.toList_none, List.nil_append, List.cons_append, List.isEmpty_cons, List.isEmpty_nil,
      Bool.false_eq_true, if_false, if_true, String.intercalate_cons_cons,
      String.intercalate_singleton, String.append_assoc]
  · exact .codeThen rfl rfl <| .codeThen rfl rfl <| .literalThen _ _ <| .codeThen rfl rfl <|
      .codeThen rfl rfl <| .ident _ _
  · exact .codeThen rfl rfl <| .codeThen rfl rfl <| .literal _ _
  · exact .codeThen rfl rfl <| .codeThen rfl rfl <| .ident _ _
  · exact .empty

/-- The name is a value twice, once where the login is looked for and once where it is created. -/
theorem sameCode_createScript (hp : s.password.isSome = s'.password.isSome)
    (hd : s.defaultDatabase.isSome = s'.defaultDatabase.isSome) :
    SameCode s.createScript s'.createScript
      (s.name :: s.name :: (s.password.toList ++ s.defaultDatabase.toList)) := by
  have hwindows : SameCode (if s.password.isNone then " FROM WINDOWS" else "")
      (if s'.password.isNone then " FROM WINDOWS" else "") [] := by
    rw [← Option.not_isSome, ← Option.not_isSome, hp]
    cases s'.password.isSome
    · exact .code rfl rfl
    · exact .empty
  have hend := hwindows.append (s.sameCode_clauses s' hp hd)
  unfold createScript create
  simp only [String.append_assoc]
  exact .codeThen rfl rfl <| .literalThen _ _ <| .codeThen rfl rfl <| .codeThen rfl rfl <|
    .identThen _ _ hend

/-- The role and the login are values twice, in the test for the membership and where it is
added. -/
theorem sameCode_roleScript (role role' : String) :
    SameCode (s.roleScript role) (s'.roleScript role') [role, s.name, role, s.name] := by
  unfold roleScript
  simp only [String.append_assoc]
  exact .codeThen rfl rfl <| .literalThen _ _ <| .codeThen rfl rfl <| .literalThen _ _ <|
    .codeThen rfl rfl <| .identThen _ _ <| .codeThen rfl rfl <| .ident _ _

end Login

namespace Database

/-- A database with every text emptied. -/
def blank (s : Database) : Database :=
  ⟨"", "", s.recoveryModel, s.owner.map fun _ => "", []⟩

variable (s s' : Database)

/-- The name is a value twice, once where the database is looked for and once where it is
created. -/
theorem sameCode_createScript : SameCode s.createScript s'.createScript [s.name, s.name] := by
  unfold createScript
  simp only [String.append_assoc]
  exact .codeThen rfl rfl <| .literalThen _ _ <| .codeThen rfl rfl <| .ident _ _

/-- The keyword of the recovery model is a text in the test and code in the change. -/
theorem sameCode_recoveryScript (model : RecoveryModel) :
    SameCode (s.recoveryScript model) (s'.recoveryScript model)
      [s.name, model.keyword, s.name] := by
  have hmodel : SameCode model.keyword model.keyword [] := by
    cases model <;> exact .code rfl rfl
  unfold recoveryScript
  simp only [String.append_assoc]
  exact .codeThen rfl rfl <| .literalThen _ _ <| .codeThen rfl rfl <| .literalThen _ _ <|
    .codeThen rfl rfl <| .identThen _ _ <| .codeThen rfl rfl hmodel

/-- The owner is compared with the present one before the database is handed over. -/
theorem sameCode_ownerScript (owner owner' : String) :
    SameCode (s.ownerScript owner) (s'.ownerScript owner') [s.name, owner, s.name, owner] := by
  unfold ownerScript
  simp only [String.append_assoc]
  exact .codeThen rfl rfl <| .codeThen rfl rfl <| .literalThen _ _ <| .codeThen rfl rfl <|
    .literalThen _ _ <| .codeThen rfl rfl <| .identThen _ _ <| .codeThen rfl rfl <| .ident _ _

end Database

namespace Distributor

/-- A distributor with every text emptied. -/
def blank (s : Distributor) : Distributor :=
  ⟨"", s.databaseName.map fun _ => "", s.adminPassword.map fun _ => "", s.minRetention,
    s.maxRetention, s.historyRetention, s.snapshotPath.map fun _ => ""⟩

variable (s s' : Distributor)

/-- No text of the step is in the statement: its two values are the same for every distributor. -/
theorem sameCode_startAgentScript :
    SameCode startAgentScript startAgentScript ["START", "SQLServerAGENT"] := by
  unfold startAgentScript
  exact .fixed rfl (.cons rfl <| .cons rfl .nil) (by decide) (by decide +kernel)

/-- The password of the administrator is a value if there is one. -/
theorem sameCode_addDistributorScript (h : s.adminPassword.isSome = s'.adminPassword.isSome) :
    SameCode s.addDistributorScript s'.addDistributorScript s.adminPassword.toList := by
  unfold addDistributorScript
  simp only [String.append_assoc]
  exact .codeThen rfl rfl <| .codeThen rfl rfl <| .codeThen rfl rfl <|
    sameCode_textArgument rfl rfl h

/-- The retentions are numbers, so they are code: two distributors that agree on them have the same
code. -/
theorem sameCode_addDatabaseScript (hmin : s.minRetention = s'.minRetention)
    (hmax : s.maxRetention = s'.maxRetention)
    (hhistory : s.historyRetention = s'.historyRetention) :
    SameCode s.addDatabaseScript s'.addDatabaseScript [s.database, s.database] := by
  have hnone : SameCode (furtherArgs []) (furtherArgs []) [] := .empty
  have hargs := sameCode_numberArgument "min_distretention" rfl rfl s.minRetention <|
    sameCode_numberArgument "max_distretention" rfl rfl s.maxRetention <|
    sameCode_numberArgument "history_retention" rfl rfl s.historyRetention hnone
  unfold addDatabaseScript
  rw [← hmin, ← hmax, ← hhistory]
  simp only [String.append_assoc]
  exact .codeThen rfl rfl <| .literalThen _ _ <| .codeThen rfl rfl <| .literalThen _ _ <|
    .codeThen rfl rfl hargs

/-- The database is a value, and the folder of the snapshots if there is one. -/
theorem sameCode_addPublisherScript (h : s.snapshotPath.isSome = s'.snapshotPath.isSome) :
    SameCode s.addPublisherScript s'.addPublisherScript (s.database :: s.snapshotPath.toList) := by
  unfold addPublisherScript
  simp only [String.append_assoc]
  exact .codeThen rfl rfl <| .codeThen rfl rfl <| .codeThen rfl rfl <| .literalThen _ _ <|
    .codeThen rfl rfl <| sameCode_textArgument rfl rfl h

end Distributor

/-- The publication is the one value of the call. -/
theorem sameCode_startSnapshotScript (publication publication' : String) :
    SameCode (startSnapshotScript publication) (startSnapshotScript publication')
      [publication] := by
  unfold startSnapshotScript
  exact .codeThen rfl rfl <| .literal _ _

namespace Publication

/-- A publication with every text emptied. -/
def blank (s : Publication) : Publication :=
  ⟨"", "", "", s.distributorInstance.map fun _ => "", s.description.map fun _ => "", []⟩

variable (s s' : Publication)

/-- The remote distributor is the one value of the call. -/
theorem sameCode_addRemoteDistributorScript (remote remote' : String) :
    SameCode (addRemoteDistributorScript remote) (addRemoteDistributorScript remote')
      [remote] := by
  unfold addRemoteDistributorScript
  simp only [String.append_assoc]
  exact .codeThen rfl rfl <| .codeThen rfl rfl <| .literal _ _

/-- The database is a value in the test and in the call, beside three texts of the statement's
own. -/
theorem sameCode_enablePublishingScript :
    SameCode s.enablePublishingScript s'.enablePublishingScript
      [s.databaseName, "IsPublished", s.databaseName, "publish", "true"] := by
  unfold enablePublishingScript
  simp only [String.append_assoc]
  exact .codeThen rfl rfl <| .literalThen _ _ <|
    .append (.fixed rfl (.cons rfl .nil) (by decide) (by decide +kernel)) <| .codeThen rfl rfl <|
    .literalThen _ _ <| .fixed rfl (.cons rfl <| .cons rfl .nil) (by decide) (by decide +kernel)

/-- The name is a value twice, and the description is the last one if there is one. -/
theorem sameCode_addPublicationScript (h : s.description.isSome = s'.description.isSome) :
    SameCode s.addPublicationScript s'.addPublicationScript
      ([s.name, s.name, "active", "true", "continuous"] ++ s.description.toList) := by
  unfold addPublicationScript
  simp only [String.append_assoc]
  exact .codeThen rfl rfl <| .literalThen _ _ <| .codeThen rfl rfl <| .literalThen _ _ <|
    .append (.fixed rfl (.cons rfl <| .cons rfl <| .cons rfl .nil) (by decide)
      (by decide +kernel)) <| sameCode_textArgument rfl rfl h

/-- The publication is a value in the test and in the call. -/
theorem sameCode_addSnapshotAgentScript :
    SameCode s.addSnapshotAgentScript s'.addSnapshotAgentScript [s.name, s.name] := by
  unfold addSnapshotAgentScript
  simp only [String.append_assoc]
  exact .codeThen rfl rfl <| .literalThen _ _ <| .codeThen rfl rfl <| .literal _ _

/-- The guard names the publication and the table, and only the call names the schema as well. -/
theorem sameCode_addArticleScript (a a' : Article) :
    SameCode (s.addArticleScript a) (s'.addArticleScript a')
      [s.name, a.table, s.name, a.table, a.schema, a.table] := by
  unfold addArticleScript articleGuard
  simp only [String.append_assoc]
  exact .codeThen rfl rfl <| .codeThen rfl rfl <| .literalThen _ _ <| .codeThen rfl rfl <|
    .literalThen _ _ <| .codeThen rfl rfl <| .literalThen _ _ <| .codeThen rfl rfl <|
    .literalThen _ _ <| .codeThen rfl rfl <| .literalThen _ _ <| .codeThen rfl rfl <| .literal _ _

end Publication

namespace PullSubscription

/-- A pull subscription with every text emptied. -/
def blank (_ : PullSubscription) : PullSubscription :=
  ⟨"", "", "", "", ""⟩

/-- The values of the call that subscribes to an article. -/
def callValues (s : PullSubscription) (article : String) : List String :=
  [s.publicationName, s.instanceName, s.databaseName, "Pull", "automatic", article, "read only"]

variable (s s' : PullSubscription)

/-- Three values of the call are the statement's own, the other four are texts of the step. -/
theorem sameCode_addSubscriptionCall (article article' : String) :
    SameCode (s.addSubscriptionCall article) (s'.addSubscriptionCall article')
      (s.callValues article) := by
  unfold addSubscriptionCall
  simp only [String.append_assoc]
  exact .codeThen rfl rfl <| .literalThen _ _ <| .codeThen rfl rfl <| .literalThen _ _ <|
    .codeThen rfl rfl <| .literalThen _ _ <|
    .append (.fixed rfl (.cons rfl <| .cons rfl .nil) (by decide) (by decide +kernel)) <|
    .literalThen _ _ <| .fixed rfl (.cons rfl .nil) (by decide) (by decide +kernel)

/-- The guard names the subscriber and its database, and no publication. -/
theorem sameCode_addSubscriptionScript :
    SameCode s.addSubscriptionScript s'.addSubscriptionScript
      (s.instanceName :: s.databaseName :: s.callValues "all") := by
  unfold addSubscriptionScript subscriptionGuard
  simp only [String.append_assoc]
  exact .codeThen rfl rfl <| .codeThen rfl rfl <| .literalThen _ _ <| .codeThen rfl rfl <|
    .literalThen _ _ <| .codeThen rfl rfl <| s.sameCode_addSubscriptionCall s' _ _

/-- The subscriber and the publication are values of the query. -/
theorem sameCode_articlesQuery :
    SameCode s.articlesQuery s'.articlesQuery ["", s.instanceName, s.publicationName] := by
  unfold articlesQuery
  simp only [String.append_assoc]
  exact .append (.fixed rfl (.cons rfl .nil) (by decide) (by decide +kernel)) <|
    .codeThen rfl rfl <| .codeThen rfl rfl <| .literalThen _ _ <| .codeThen rfl rfl <| .literal _ _

/-- The guard names the subscriber and the article, and no publication. -/
theorem sameCode_addArticleScript (article article' : String) :
    SameCode (s.addArticleScript article) (s'.addArticleScript article')
      (s.instanceName :: article :: s.callValues article) := by
  unfold addArticleScript articleGuard
  simp only [String.append_assoc]
  exact .codeThen rfl rfl <| .codeThen rfl rfl <| .literalThen _ _ <| .codeThen rfl rfl <|
    .literalThen _ _ <| .codeThen rfl rfl <| s.sameCode_addSubscriptionCall s' _ _

/-- The dynamic SQL is a text of its own, and always the same. -/
theorem sameCode_addPullSubscriptionScript :
    SameCode s.addPullSubscriptionScript s'.addPullSubscriptionScript
      ["dbo.MSreplication_subscriptions",
        "SELECT @e = COUNT(*) FROM dbo.MSreplication_subscriptions " ++
          "WHERE publisher = @p AND publisher_db = @d AND publication = @n",
        "@e int OUTPUT, @p sysname, @d sysname, @n sysname", s.publisherInstance,
        s.publisherDatabaseName, s.publicationName, s.publisherInstance, s.publisherDatabaseName,
        s.publicationName, "read only"] := by
  unfold addPullSubscriptionScript
  simp only [String.append_assoc]
  exact .codeThen rfl rfl <|
    .append (.fixed rfl (.cons rfl .nil) (by decide) (by decide +kernel)) <|
    .fixedPairThen rfl rfl (.cons (eq_ofList_append rfl rfl) .nil) (by decide)
      (by decide +kernel) <|
    .append (.fixed rfl (.cons rfl .nil) (by decide) (by decide +kernel)) <|
    .literalThen _ _ <| .codeThen rfl rfl <| .literalThen _ _ <| .codeThen rfl rfl <|
    .literalThen _ _ <| .codeThen rfl rfl <| .codeThen rfl rfl <| .literalThen _ _ <|
    .codeThen rfl rfl <| .literalThen _ _ <| .codeThen rfl rfl <| .literalThen _ _ <|
    .fixed rfl (.cons rfl .nil) (by decide) (by decide +kernel)

/-- All five texts of the subscription are values, each of them once. -/
theorem sameCode_addAgentScript :
    SameCode s.addAgentScript s'.addAgentScript [s.publisherInstance, s.publisherDatabaseName,
      s.publicationName, s.instanceName, s.databaseName] := by
  unfold addAgentScript
  simp only [String.append_assoc]
  exact .codeThen rfl rfl <| .literalThen _ _ <| .codeThen rfl rfl <| .literalThen _ _ <|
    .codeThen rfl rfl <| .literalThen _ _ <| .codeThen rfl rfl <| .literalThen _ _ <|
    .codeThen rfl rfl <| .literalThen _ _ <| .code rfl rfl

end PullSubscription

namespace Backup

/-- A backup with every text emptied. -/
def blank (s : Backup) : Backup :=
  ⟨"", "", "", s.copyOnly⟩

/-- The database and the file are values in the test for a backup and in the backup itself. -/
theorem sameCode_backupScript (s s' : Backup) (h : s.copyOnly = s'.copyOnly) :
    SameCode s.backupScript s'.backupScript
      [s.databaseName, "D", s.path, s.databaseName, s.path] := by
  have hoptions : SameCode (if s.copyOnly then "INIT, COPY_ONLY" else "INIT")
      (if s'.copyOnly then "INIT, COPY_ONLY" else "INIT") [] := by
    rw [← h]
    split <;> exact .code rfl rfl
  unfold backupScript
  simp only [String.append_assoc]
  exact .codeThen rfl rfl <| .codeThen rfl rfl <| .literalThen _ _ <|
    .append (.fixed rfl (.cons rfl .nil) (by decide) (by decide +kernel)) <| .literalThen _ _ <|
    .codeThen rfl rfl <| .identThen _ _ <| .codeThen rfl rfl <| .literalThen _ _ <|
    .codeThen rfl rfl hoptions

end Backup

namespace Restore

/-- A restore with every text emptied. -/
def blank (s : Restore) : Restore :=
  ⟨"", "", "", s.recovery⟩

/-- The database is a value in the test and in the restore, and the file in the restore only. -/
theorem sameCode_restoreScript (s s' : Restore) (h : s.recovery = s'.recovery) :
    SameCode s.restoreScript s'.restoreScript [s.databaseName, s.databaseName, s.path] := by
  have hrecovery : SameCode (if s.recovery then "RECOVERY" else "NORECOVERY")
      (if s'.recovery then "RECOVERY" else "NORECOVERY") [] := by
    rw [← h]
    split <;> exact .code rfl rfl
  unfold restoreScript
  simp only [String.append_assoc]
  exact .codeThen rfl rfl <| .literalThen _ _ <| .codeThen rfl rfl <| .identThen _ _ <|
    .codeThen rfl rfl <| .literalThen _ _ <| .codeThen rfl rfl hrecovery

end Restore

namespace MirroringEndpoint

/-- An endpoint with every text emptied. -/
def blank (s : MirroringEndpoint) : MirroringEndpoint :=
  ⟨"", s.port⟩

/-- The endpoint has a fixed name, and the port is a number. -/
theorem sameCode_endpointScript (s s' : MirroringEndpoint) (h : s.port = s'.port) :
    SameCode s.endpointScript s'.endpointScript ["Mirroring"] := by
  unfold endpointScript
  rw [← h]
  simp only [String.append_assoc]
  exact .codeThen rfl rfl <| .identThen _ _ <| .codeThen rfl rfl <| .append (.nat _) <|
    .code rfl rfl

end MirroringEndpoint

namespace MirroringPartner

/-- One side of mirroring with every text emptied. -/
def blank (_ : MirroringPartner) : MirroringPartner :=
  ⟨"", "", ""⟩

/-- The database is a value in the test and in the change, and the address in the change only. -/
theorem sameCode_partnerScript (s s' : MirroringPartner) :
    SameCode s.partnerScript s'.partnerScript
      [s.databaseName, s.databaseName, s.partnerAddress] := by
  unfold partnerScript
  simp only [String.append_assoc]
  exact .codeThen rfl rfl <| .literalThen _ _ <| .codeThen rfl rfl <| .identThen _ _ <|
    .codeThen rfl rfl <| .literal _ _

end MirroringPartner

end Rollout.Step
