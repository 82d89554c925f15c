import Mathlib.Data.List.Forall2
import Mathlib.Data.Option.Basic
import Rollout.Proofs.Plan.Completion
import Rollout.Proofs.Plan.Reading

/-!
# A plan and its manifest

What a manifest is compiled to corresponds to it part by part. A template comes to a text, and the
fields of a step are what the templates of its operation come to (`Operation.Corresponds`); the
steps of a block are those of its operations one after the other, and the steps of a target those of
its blocks. Each compilation is proved to succeed with exactly what corresponds
(`Operation.steps_eq_ok_iff`), so that the plan of a manifest is the only one that corresponds to it
(`Manifest.corresponds_of_compile`).
-/

namespace Rollout

/-- Computations one after the other succeed exactly if both do. -/
theorem bind_eq_ok_iff {ε α β : Type} {x : Except ε α} {f : α → Except ε β} {b : β} :
    x >>= f = .ok b ↔ ∃ a, x = .ok a ∧ f a = .ok b :=
  ⟨ok_of_bind, fun ⟨_, ha, hb⟩ => by rw [ha]; exact hb⟩

/-- What is made of a result succeeds exactly if the result does. -/
theorem map_eq_ok_iff {ε α β : Type} {x : Except ε α} {f : α → β} {b : β} :
    x.map f = .ok b ↔ ∃ a, x = .ok a ∧ f a = b := by
  cases x <;> simp [Except.map]

/-- An optional template and what it comes to, which is a given value if there is no template. -/
inductive OrElse {α : Type} (R : Template → α → Prop) (otherwise : α) :
    Option Template → α → Prop
  | absent : OrElse R otherwise none otherwise
  | given {t : Template} {a : α} (h : R t a) : OrElse R otherwise (some t) a

section

variable (v : String → Option String) (base instanceName : String)

namespace Template

/-- The text that a template comes to by the values of names. -/
def ComesTo (t : Template) (s : String) : Prop :=
  t.expandWith v = .ok s

/-- The value that the text of a template is read as. -/
def ReadAs {α : Type} (reading : Reading α) (t : Template) (a : α) : Prop :=
  ∃ s, t.ComesTo v s ∧ reading.read? (Text.trimChars s.toList) = some a

/-- The file that the text of a template refers to. -/
def RefersTo (t : Template) (path : String) : Prop :=
  ∃ s, t.ComesTo v s ∧ path = Path.resolve base s

/-- The article that the text of a template names. -/
def NamesArticle (t : Template) (article : Article) : Prop :=
  ∃ s, t.ComesTo v s ∧ article = Article.parse s

end Template

open Template

namespace Operation

/-- A login and its step. -/
structure Login.Corresponds (op : Login) (s : Step.Login) : Prop where
  instanceName : s.instanceName = instanceName
  name : op.name.ComesTo v s.name
  password : Option.Rel (ComesTo v) op.password s.password
  defaultDatabase : Option.Rel (ComesTo v) op.defaultDatabase s.defaultDatabase
  serverRoles : List.Forall₂ (ComesTo v) op.serverRoles s.serverRoles

/-- A database and its step. -/
structure Database.Corresponds (op : Database) (s : Step.Database) : Prop where
  instanceName : s.instanceName = instanceName
  name : op.name.ComesTo v s.name
  recoveryModel : Option.Rel (ReadAs v .recoveryModel) op.recoveryModel s.recoveryModel
  owner : Option.Rel (ComesTo v) op.owner s.owner
  scripts : List.Forall₂ (RefersTo v base) op.scripts s.scripts

/-- A distributor and its step. -/
structure Distributor.Corresponds (op : Distributor) (s : Step.Distributor) : Prop where
  instanceName : s.instanceName = instanceName
  databaseName : Option.Rel (ComesTo v) op.databaseName s.databaseName
  adminPassword : Option.Rel (ComesTo v) op.adminPassword s.adminPassword
  minRetention : Option.Rel (ReadAs v .int32) op.minRetention s.minRetention
  maxRetention : Option.Rel (ReadAs v .int32) op.maxRetention s.maxRetention
  historyRetention : Option.Rel (ReadAs v .int32) op.historyRetention s.historyRetention
  snapshotPath : Option.Rel (ComesTo v) op.snapshotPath s.snapshotPath

/-- A publication and its step. -/
structure Publication.Corresponds (op : Publication) (s : Step.Publication) : Prop where
  instanceName : s.instanceName = instanceName
  databaseName : op.databaseName.ComesTo v s.databaseName
  name : op.name.ComesTo v s.name
  distributorInstance : Option.Rel (ComesTo v) op.distributorInstance s.distributorInstance
  description : Option.Rel (ComesTo v) op.description s.description
  articles : List.Forall₂ (NamesArticle v) op.articles s.articles

/-- A subscription and its step. -/
structure Subscription.Corresponds (op : Subscription) (s : Step.PullSubscription) : Prop where
  instanceName : s.instanceName = instanceName
  databaseName : op.databaseName.ComesTo v s.databaseName
  publisherInstance : op.publisherInstance.ComesTo v s.publisherInstance
  publisherDatabaseName : op.publisherDatabaseName.ComesTo v s.publisherDatabaseName
  publicationName : op.publicationName.ComesTo v s.publicationName

/-- A backup and its step. -/
structure Backup.Corresponds (op : Backup) (s : Step.Backup) : Prop where
  instanceName : s.instanceName = instanceName
  databaseName : op.databaseName.ComesTo v s.databaseName
  path : op.path.RefersTo v base s.path
  copyOnly : OrElse (ReadAs v .flag) false op.copyOnly s.copyOnly

/-- A restore and its step. -/
structure Restore.Corresponds (op : Restore) (s : Step.Restore) : Prop where
  instanceName : s.instanceName = instanceName
  databaseName : op.databaseName.ComesTo v s.databaseName
  path : op.path.RefersTo v base s.path
  recovery : OrElse (ReadAs v .flag) true op.recovery s.recovery

/-- What the two sides of a mirror know of each other. -/
structure Mirroring.Sides where
  principal : String
  partner : String
  databaseName : String
  port : Nat
  principalAddress : String
  partnerAddress : String

/-- The steps of a mirror: an endpoint on both sides, then on the partner the address of the
principal, and on the principal that of the partner. -/
def Mirroring.Sides.steps (x : Mirroring.Sides) : List Step :=
  [.mirroringEndpoint { instanceName := x.principal, port := x.port },
    .mirroringEndpoint { instanceName := x.partner, port := x.port },
    .mirroringPartner { instanceName := x.partner, databaseName := x.databaseName,
                        partnerAddress := x.principalAddress },
    .mirroringPartner { instanceName := x.principal, databaseName := x.databaseName,
                        partnerAddress := x.partnerAddress }]

/-- Mirroring and its two sides. An address that is not given is made of the instance of its side
and the port of both. -/
structure Mirroring.Corresponds (op : Mirroring) (x : Sides) : Prop where
  principal : x.principal = instanceName
  partner : op.partnerInstance.ComesTo v x.partner
  databaseName : op.databaseName.ComesTo v x.databaseName
  port : OrElse (ReadAs v .uint16) defaultMirroringPort op.port x.port
  principalAddress : OrElse (ComesTo v) (endpointAddress x.principal x.port) op.principalAddress
    x.principalAddress
  partnerAddress : OrElse (ComesTo v) (endpointAddress x.partner x.port) op.partnerAddress
    x.partnerAddress

/-- An operation and its steps on the instance of its block. -/
inductive Corresponds : Operation → List Step → Prop
  | login {op : Login} {s : Step.Login} (h : op.Corresponds v instanceName s) :
    Corresponds (.login op) [.login s]
  | database {op : Database} {s : Step.Database} (h : op.Corresponds v base instanceName s) :
    Corresponds (.database op) [.database s]
  | distributor {op : Distributor} {s : Step.Distributor} (h : op.Corresponds v instanceName s) :
    Corresponds (.distributor op) [.distributor s]
  | publication {op : Publication} {s : Step.Publication} (h : op.Corresponds v instanceName s) :
    Corresponds (.publication op) [.publication s]
  | subscription {op : Subscription} {s : Step.PullSubscription}
    (h : op.Corresponds v instanceName s) : Corresponds (.subscription op) [.pullSubscription s]
  | backup {op : Backup} {s : Step.Backup} (h : op.Corresponds v base instanceName s) :
    Corresponds (.backup op) [.backup s]
  | restore {op : Restore} {s : Step.Restore} (h : op.Corresponds v base instanceName s) :
    Corresponds (.restore op) [.restore s]
  | mirroring {op : Mirroring} {x : Mirroring.Sides} (h : op.Corresponds v instanceName x) :
    Corresponds (.mirroring op) x.steps

end Operation

/-- A block and its steps: those of its operations, in order, on the instance that it names. -/
def Block.Corresponds (b : Block) (steps : List Step) : Prop :=
  ∃ instanceName parts, b.name.ComesTo v instanceName ∧
    List.Forall₂ (Operation.Corresponds v base instanceName) b.operations parts ∧
    steps = parts.flatten

/-- A target of a manifest and one of a plan: they depend on the same targets, and the steps are
those of the blocks in order. -/
def Target.Corresponds (t : Target) (e : PlanTarget) : Prop :=
  e.dependsOn = t.dependsOn ∧
    ∃ parts, List.Forall₂ (Block.Corresponds v base) t.blocks parts ∧ e.steps = parts.flatten

/-- A manifest and a plan: the same targets in the same order. -/
def Manifest.Corresponds (m : Manifest) (p : Plan) : Prop :=
  List.Forall₂ (fun declared planned => planned.1 = declared.1 ∧
    declared.2.Corresponds v base planned.2) m.targets.entries p.targets.entries

end

/-! ## Lists -/

section

variable {ε α β : Type} {as : List α} {bs : List β}

/-- A computation on each element of a list comes to what corresponds to the elements. -/
theorem eq_ok_iff_forall₂ {f : List α → Except ε (List β)} {g : α → Except ε β} {R : α → β → Prop}
    (hnil : f [] = .ok [])
    (hcons : ∀ a r, f (a :: r) = g a >>= fun b => f r >>= fun rest => .ok (b :: rest))
    (hg : ∀ {a b}, g a = .ok b ↔ R a b) : f as = .ok bs ↔ List.Forall₂ R as bs := by
  induction as generalizing bs with
  | nil => simp [hnil, eq_comm]
  | cons a r ih =>
    simp only [hcons, bind_eq_ok_iff, hg, ih, List.forall₂_cons_left_iff, Except.ok.injEq]
    constructor
    · rintro ⟨b, hb, rest, hrest, rfl⟩
      exact ⟨b, rest, hb, hrest, rfl⟩
    · rintro ⟨b, rest, hb, hrest, rfl⟩
      exact ⟨b, hb, rest, hrest, rfl⟩

/-- A computation on each element of a list that puts together what it comes to. -/
theorem eq_ok_iff_flatten {f : List α → Except ε (List β)} {g : α → Except ε (List β)}
    {R : α → List β → Prop} (hnil : f [] = .ok [])
    (hcons : ∀ a r, f (a :: r) = g a >>= fun b => f r >>= fun rest => .ok (b ++ rest))
    (hg : ∀ {a b}, g a = .ok b ↔ R a b) :
    f as = .ok bs ↔ ∃ parts, List.Forall₂ R as parts ∧ bs = parts.flatten := by
  induction as generalizing bs with
  | nil => simp [hnil, eq_comm]
  | cons a r ih =>
    simp only [hcons, bind_eq_ok_iff, hg, ih, List.forall₂_cons_left_iff, Except.ok.injEq]
    constructor
    · rintro ⟨b, hb, _, ⟨parts, hparts, rfl⟩, rfl⟩
      exact ⟨b :: parts, ⟨b, parts, hb, hparts, rfl⟩, List.flatten_cons.symm⟩
    · rintro ⟨_, ⟨b, parts, hb, hparts, rfl⟩, rfl⟩
      exact ⟨b, hb, parts.flatten, ⟨parts, hparts, rfl⟩, List.flatten_cons.symm⟩

/-- What corresponds to the elements of a list, and then a function of it. -/
theorem forall₂_map_iff {γ : Type} {R : α → β → Prop} {f : β → γ} {cs : List γ} :
    List.Forall₂ (fun a c => ∃ b, R a b ∧ c = f b) as cs ↔
      ∃ bs, List.Forall₂ R as bs ∧ cs = bs.map f := by
  constructor
  · intro h
    induction h with
    | nil => exact ⟨[], .nil, rfl⟩
    | cons h _ ih =>
      obtain ⟨b, hb, rfl⟩ := h
      obtain ⟨bs, hbs, rfl⟩ := ih
      exact ⟨b :: bs, .cons hb hbs, rfl⟩
  · rintro ⟨bs, h, rfl⟩
    exact List.forall₂_map_right_iff.2 (h.imp fun a b hb => ⟨b, hb, rfl⟩)

end

/-! ## Fields -/

section

variable {α : Type} {reading : Template.Reading α}

/-- A template is read as the value of its text. -/
theorem Template.expandAs_eq_ok_iff {params : Params} {t : Template} {a : α} :
    t.expandAs reading params = .ok a ↔ t.ReadAs params.get? reading a := by
  unfold expandAs ReadAs ComesTo
  rw [expand]
  cases t.expandWith params.get? with
  | error e => simp
  | ok s => cases hread : reading.read? (Text.trimChars s.toList) <;> simp [hread]

namespace Site

variable {site : Site} {t : Template} {o : Option Template} {l : List Template} {s : String}

/-- A text of an operation is what its template comes to. -/
theorem text_eq_ok_iff : site.text t = .ok s ↔ t.ComesTo site.params.get? s :=
  Iff.rfl

/-- An optional text is there exactly if its template is, and is what that comes to. -/
theorem text?_eq_ok_iff {r : Option String} :
    site.text? o = .ok r ↔ Option.Rel (Template.ComesTo site.params.get?) o r := by
  cases o with
  | none => cases r <;> simp [text?]
  | some t => cases r <;> simp [text?, map_eq_ok_iff, text_eq_ok_iff]

/-- The texts of a list are what its templates come to, in their order. -/
theorem texts_eq_ok_iff {r : List String} :
    site.texts l = .ok r ↔ List.Forall₂ (Template.ComesTo site.params.get?) l r :=
  eq_ok_iff_forall₂ rfl (fun _ _ => rfl) text_eq_ok_iff

/-- An optional value is there exactly if its template is, and is what its text is read as. -/
theorem value?_eq_ok_iff {r : Option α} :
    site.value? reading o = .ok r ↔ Option.Rel (Template.ReadAs site.params.get? reading) o r := by
  cases o with
  | none => cases r <;> simp [value?]
  | some t => cases r <;> simp [value?, map_eq_ok_iff, Template.expandAs_eq_ok_iff]

end Site

variable {R : Template → α → Prop}

/-- An optional template with a value to fall back on comes to what it comes to, or else to that
value. -/
theorem orElse_iff {otherwise : α} {o : Option Template} {a : α} :
    OrElse R otherwise o a ↔ ∃ r, Option.Rel R o r ∧ a = r.getD otherwise := by
  constructor
  · intro h
    cases h with
    | absent => exact ⟨none, .none, rfl⟩
    | given h => exact ⟨some a, .some h, rfl⟩
  · rintro ⟨r, h, rfl⟩
    cases h with
    | none => exact .absent
    | some h => exact .given h

end

/-! ## Operations -/

namespace Operation

variable {site : Site}

/-- The step of a login is the one that corresponds to it, whatever the order in which the fields
are expanded. -/
theorem Login.step_eq_ok_iff {op : Login} {s : Step.Login} :
    op.step site = .ok s ↔ op.Corresponds site.params.get? site.instanceName s := by
  simp only [Login.step, bind_eq_ok_iff, Site.text_eq_ok_iff, Site.text?_eq_ok_iff,
    Site.texts_eq_ok_iff]
  constructor
  · rintro ⟨_, hname, _, hpassword, _, hdatabase, _, hroles, ⟨⟩⟩
    exact ⟨rfl, hname, hpassword, hdatabase, hroles⟩
  · obtain ⟨_, _, _, _, _⟩ := s
    rintro ⟨rfl, hname, hpassword, hdatabase, hroles⟩
    exact ⟨_, hname, _, hpassword, _, hdatabase, _, hroles, rfl⟩

/-- The step of a database has its scripts resolved from the base, which are expanded before all
other fields. -/
theorem Database.step_eq_ok_iff {op : Database} {s : Step.Database} :
    op.step site = .ok s ↔ op.Corresponds site.params.get? site.base site.instanceName s := by
  simp only [Database.step, bind_eq_ok_iff, Site.text_eq_ok_iff, Site.text?_eq_ok_iff,
    Site.texts_eq_ok_iff, Site.value?_eq_ok_iff]
  constructor
  · rintro ⟨_, hscripts, _, hname, _, hmodel, _, howner, ⟨⟩⟩
    exact ⟨rfl, hname, hmodel, howner, forall₂_map_iff.2 ⟨_, hscripts, rfl⟩⟩
  · obtain ⟨_, _, _, _, _⟩ := s
    rintro ⟨rfl, hname, hmodel, howner, hscripts⟩
    obtain ⟨_, htexts, rfl⟩ := forall₂_map_iff.1 hscripts
    exact ⟨_, htexts, _, hname, _, hmodel, _, howner, rfl⟩

/-- The step of a distributor has its retentions as numbers. -/
theorem Distributor.step_eq_ok_iff {op : Distributor} {s : Step.Distributor} :
    op.step site = .ok s ↔ op.Corresponds site.params.get? site.instanceName s := by
  simp only [Distributor.step, bind_eq_ok_iff, Site.text?_eq_ok_iff, Site.value?_eq_ok_iff]
  constructor
  · rintro ⟨_, hname, _, hpassword, _, hmin, _, hmax, _, hhistory, _, hpath, ⟨⟩⟩
    exact ⟨rfl, hname, hpassword, hmin, hmax, hhistory, hpath⟩
  · obtain ⟨_, _, _, _, _, _, _⟩ := s
    rintro ⟨rfl, hname, hpassword, hmin, hmax, hhistory, hpath⟩
    exact ⟨_, hname, _, hpassword, _, hmin, _, hmax, _, hhistory, _, hpath, rfl⟩

/-- The step of a publication has each of its articles with its schema and table. -/
theorem Publication.step_eq_ok_iff {op : Publication} {s : Step.Publication} :
    op.step site = .ok s ↔ op.Corresponds site.params.get? site.instanceName s := by
  simp only [Publication.step, bind_eq_ok_iff, Site.text_eq_ok_iff, Site.text?_eq_ok_iff,
    Site.texts_eq_ok_iff]
  constructor
  · rintro ⟨_, hdatabase, _, hname, _, hdistributor, _, hdescription, _, harticles, ⟨⟩⟩
    exact ⟨rfl, hdatabase, hname, hdistributor, hdescription,
      forall₂_map_iff.2 ⟨_, harticles, rfl⟩⟩
  · obtain ⟨_, _, _, _, _, _⟩ := s
    rintro ⟨rfl, hdatabase, hname, hdistributor, hdescription, harticles⟩
    obtain ⟨_, htexts, rfl⟩ := forall₂_map_iff.1 harticles
    exact ⟨_, hdatabase, _, hname, _, hdistributor, _, hdescription, _, htexts, rfl⟩

/-- The step of a subscription has the instance of its block as the subscriber. -/
theorem Subscription.step_eq_ok_iff {op : Subscription} {s : Step.PullSubscription} :
    op.step site = .ok s ↔ op.Corresponds site.params.get? site.instanceName s := by
  simp only [Subscription.step, bind_eq_ok_iff, Site.text_eq_ok_iff]
  constructor
  · rintro ⟨_, hdatabase, _, hpublisher, _, hpublished, _, hpublication, ⟨⟩⟩
    exact ⟨rfl, hdatabase, hpublisher, hpublished, hpublication⟩
  · obtain ⟨_, _, _, _, _⟩ := s
    rintro ⟨rfl, hdatabase, hpublisher, hpublished, hpublication⟩
    exact ⟨_, hdatabase, _, hpublisher, _, hpublished, _, hpublication, rfl⟩

/-- The step of a backup is one for a copy only if the manifest says so. -/
theorem Backup.step_eq_ok_iff {op : Backup} {s : Step.Backup} :
    op.step site = .ok s ↔ op.Corresponds site.params.get? site.base site.instanceName s := by
  simp only [Backup.step, bind_eq_ok_iff, Site.text_eq_ok_iff, Site.value?_eq_ok_iff]
  constructor
  · rintro ⟨_, hdatabase, _, hpath, _, hcopy, ⟨⟩⟩
    exact ⟨rfl, hdatabase, ⟨_, hpath, rfl⟩, orElse_iff.2 ⟨_, hcopy, rfl⟩⟩
  · obtain ⟨_, _, _, _⟩ := s
    rintro ⟨rfl, hdatabase, ⟨_, hpath, rfl⟩, hcopy⟩
    obtain ⟨_, hflag, rfl⟩ := orElse_iff.1 hcopy
    exact ⟨_, hdatabase, _, hpath, _, hflag, rfl⟩

/-- The step of a restore recovers the database unless the manifest says otherwise. -/
theorem Restore.step_eq_ok_iff {op : Restore} {s : Step.Restore} :
    op.step site = .ok s ↔ op.Corresponds site.params.get? site.base site.instanceName s := by
  simp only [Restore.step, bind_eq_ok_iff, Site.text_eq_ok_iff, Site.value?_eq_ok_iff]
  constructor
  · rintro ⟨_, hdatabase, _, hpath, _, hrecovery, ⟨⟩⟩
    exact ⟨rfl, hdatabase, ⟨_, hpath, rfl⟩, orElse_iff.2 ⟨_, hrecovery, rfl⟩⟩
  · obtain ⟨_, _, _, _⟩ := s
    rintro ⟨rfl, hdatabase, ⟨_, hpath, rfl⟩, hrecovery⟩
    obtain ⟨_, hflag, rfl⟩ := orElse_iff.1 hrecovery
    exact ⟨_, hdatabase, _, hpath, _, hflag, rfl⟩

/-- The steps of mirroring are those of its two sides. -/
theorem Mirroring.steps_eq_ok_iff {op : Mirroring} {steps : List Step} :
    op.steps site = .ok steps ↔
      ∃ x, op.Corresponds site.params.get? site.instanceName x ∧ x.steps = steps := by
  simp only [Mirroring.steps, bind_eq_ok_iff, Site.text_eq_ok_iff, Site.text?_eq_ok_iff,
    Site.value?_eq_ok_iff]
  constructor
  · -- the address of the partner is expanded before that of the principal
    rintro ⟨partner, hpartner, databaseName, hdatabase, _, hport, _, hpartnerAddress, _,
      hprincipalAddress, ⟨⟩⟩
    exact ⟨⟨site.instanceName, partner, databaseName, _, _, _⟩,
      ⟨rfl, hpartner, hdatabase, orElse_iff.2 ⟨_, hport, rfl⟩,
        orElse_iff.2 ⟨_, hprincipalAddress, rfl⟩, orElse_iff.2 ⟨_, hpartnerAddress, rfl⟩⟩, rfl⟩
  · rintro ⟨x, h, rfl⟩
    obtain ⟨_, hport, hportValue⟩ := orElse_iff.1 h.port
    obtain ⟨_, hprincipal, hprincipalValue⟩ := orElse_iff.1 h.principalAddress
    obtain ⟨_, hpartner, hpartnerValue⟩ := orElse_iff.1 h.partnerAddress
    refine ⟨_, h.partner, _, h.databaseName, _, hport, _, hpartner, _, hprincipal, ?_⟩
    rw [← hportValue, ← h.principal, ← hprincipalValue, ← hpartnerValue]
    rfl

/-- The steps of an operation are the ones that correspond to it. -/
theorem steps_eq_ok_iff {op : Operation} {steps : List Step} :
    op.steps site = .ok steps ↔
      op.Corresponds site.params.get? site.base site.instanceName steps := by
  constructor
  · intro h
    cases op with
    | login op =>
      obtain ⟨s, hs, rfl⟩ := map_eq_ok_iff.1 h
      exact .login (Login.step_eq_ok_iff.1 hs)
    | database op =>
      obtain ⟨s, hs, rfl⟩ := map_eq_ok_iff.1 h
      exact .database (Database.step_eq_ok_iff.1 hs)
    | distributor op =>
      obtain ⟨s, hs, rfl⟩ := map_eq_ok_iff.1 h
      exact .distributor (Distributor.step_eq_ok_iff.1 hs)
    | publication op =>
      obtain ⟨s, hs, rfl⟩ := map_eq_ok_iff.1 h
      exact .publication (Publication.step_eq_ok_iff.1 hs)
    | subscription op =>
      obtain ⟨s, hs, rfl⟩ := map_eq_ok_iff.1 h
      exact .subscription (Subscription.step_eq_ok_iff.1 hs)
    | backup op =>
      obtain ⟨s, hs, rfl⟩ := map_eq_ok_iff.1 h
      exact .backup (Backup.step_eq_ok_iff.1 hs)
    | restore op =>
      obtain ⟨s, hs, rfl⟩ := map_eq_ok_iff.1 h
      exact .restore (Restore.step_eq_ok_iff.1 hs)
    | mirroring op =>
      obtain ⟨x, hx, rfl⟩ := Mirroring.steps_eq_ok_iff.1 h
      exact .mirroring hx
  · intro h
    cases h with
    | login h => exact map_eq_ok_iff.2 ⟨_, Login.step_eq_ok_iff.2 h, rfl⟩
    | database h => exact map_eq_ok_iff.2 ⟨_, Database.step_eq_ok_iff.2 h, rfl⟩
    | distributor h => exact map_eq_ok_iff.2 ⟨_, Distributor.step_eq_ok_iff.2 h, rfl⟩
    | publication h => exact map_eq_ok_iff.2 ⟨_, Publication.step_eq_ok_iff.2 h, rfl⟩
    | subscription h => exact map_eq_ok_iff.2 ⟨_, Subscription.step_eq_ok_iff.2 h, rfl⟩
    | backup h => exact map_eq_ok_iff.2 ⟨_, Backup.step_eq_ok_iff.2 h, rfl⟩
    | restore h => exact map_eq_ok_iff.2 ⟨_, Restore.step_eq_ok_iff.2 h, rfl⟩
    | mirroring h => exact Mirroring.steps_eq_ok_iff.2 ⟨_, h, rfl⟩

end Operation

/-! ## Blocks and targets -/

section

variable {params : Params} {base : String} {steps : List Step}

/-- The steps of operations are those of each of them, one after the other. -/
theorem operationSteps_eq_ok_iff {site : Site} {ops : List Operation} :
    operationSteps site ops = .ok steps ↔
      ∃ parts, List.Forall₂
        (Operation.Corresponds site.params.get? site.base site.instanceName) ops parts ∧
        steps = parts.flatten :=
  eq_ok_iff_flatten rfl (fun _ _ => rfl) Operation.steps_eq_ok_iff

/-- The steps of blocks are those of each of them, one after the other, on the instances that their
names come to. -/
theorem blockSteps_eq_ok_iff {blocks : List Block} :
    blockSteps params base blocks = .ok steps ↔
      ∃ parts, List.Forall₂ (Block.Corresponds params.get? base) blocks parts ∧
        steps = parts.flatten := by
  -- the name of a block and its operations are one computation
  refine eq_ok_iff_flatten rfl (fun b r => (bind_assoc (b.name.expand params)
    (fun instanceName => operationSteps ⟨params, base, instanceName⟩ b.operations) _).symm) ?_
  intro b steps
  simp only [bind_eq_ok_iff, operationSteps_eq_ok_iff, ← exists_and_left]
  rfl

/-- The targets of a plan are those that correspond to the declared ones, in their order. -/
theorem planTargets_eq_ok_iff {declared : List (String × Target)}
    {planned : List (String × PlanTarget)} :
    planTargets params base declared = .ok planned ↔
      List.Forall₂ (fun d p => p.1 = d.1 ∧ d.2.Corresponds params.get? base p.2)
        declared planned := by
  refine eq_ok_iff_forall₂ (g := fun d => blockSteps params base d.2.blocks >>= fun steps =>
    .ok (d.1, ⟨d.2.dependsOn, steps⟩)) rfl (fun d r => ?_) @fun d p => ?_
  · rw [bind_assoc]
    rfl
  · simp only [bind_eq_ok_iff, blockSteps_eq_ok_iff, Target.Corresponds]
    constructor
    · rintro ⟨steps, hsteps, ⟨⟩⟩
      exact ⟨rfl, rfl, hsteps⟩
    · obtain ⟨name, dependsOn, steps⟩ := p
      rintro ⟨rfl, rfl, hsteps⟩
      exact ⟨steps, hsteps, rfl⟩

end

namespace Manifest

variable {m : Manifest} {supplied : Params} {base? : Option String} {p : Plan}

/-- The targets of the plan of a manifest are made by the values of its parameters. -/
theorem planTargets_of_compile (h : m.compile supplied base? = .ok p) :
    ∃ params, params.get? = m.value? supplied ∧
      planTargets params (m.base base?) m.targets.entries = .ok p.targets.entries := by
  rw [compile_eq] at h
  cases hparams : resolveParams m.parameters supplied with
  | error e => simp [hparams] at h
  | ok params =>
    cases hnone : m.firstDependencyError? with
    | some e => simp [hparams, hnone] at h
    | none =>
      simp only [hparams, hnone] at h
      obtain ⟨targets, htargets, rfl⟩ := map_eq_ok_iff.1 h
      have hnames := names_planTargets htargets
      refine ⟨params, get?_of_resolveParams hparams, ?_⟩
      rw [htargets, Listing.entries_ofList (hnames ▸ m.targets.distinct)]

/-- A manifest that compiles corresponds to its plan and to no other one. -/
theorem corresponds_iff_of_compile (h : m.compile supplied base? = .ok p) {q : Plan} :
    m.Corresponds (m.value? supplied) (m.base base?) q ↔ q = p := by
  obtain ⟨params, hparams, htargets⟩ := planTargets_of_compile h
  rw [← hparams]
  constructor
  · intro hq
    have hentries : q.targets.entries = p.targets.entries :=
      Except.ok.inj ((planTargets_eq_ok_iff.2 hq).symm.trans htargets)
    cases q
    cases p
    rw [Plan.mk.injEq]
    exact Listing.eq_of_entries hentries
  · rintro rfl
    exact planTargets_eq_ok_iff.1 htargets

/-- The plan of a manifest is the one that corresponds to it, by the values of its parameters and
from its base: it has the declared targets in their order, each with its dependencies, and the steps
of a target are those of the operations of its blocks, in order. -/
theorem corresponds_of_compile (h : m.compile supplied base? = .ok p) :
    m.Corresponds (m.value? supplied) (m.base base?) p ∧
      ∀ q, m.Corresponds (m.value? supplied) (m.base base?) q → q = p :=
  ⟨(corresponds_iff_of_compile h).2 rfl, fun _ => (corresponds_iff_of_compile h).1⟩

end Manifest

namespace Sample

/-- A block for a database with a script and for a publication of two tables, one of which is named
with its schema. -/
def salesBlock : Block :=
  ⟨⟨"SQL01\\MAIN"⟩,
    [.database ⟨⟨"Sales"⟩, none, none, [⟨"../sql/init.sql"⟩]⟩,
      .publication ⟨⟨"Sales"⟩, ⟨"SalesPub"⟩, none, none, [⟨"Orders"⟩, ⟨"crm . Lines"⟩]⟩]⟩

/-- A block for a mirror of the database on a partner, with an address for the principal only. -/
def mirrorBlock : Block :=
  ⟨⟨"SQL01\\MAIN"⟩,
    [.mirroring ⟨⟨"Sales"⟩, ⟨"\x7b\x7bparams.partner\x7d\x7d"⟩,
      some ⟨"\x7b\x7b params.port \x7d\x7d"⟩, none, some ⟨"TCP://main.example:7022"⟩⟩]⟩

/-- A manifest of the two blocks. -/
def mirrored : Manifest where
  name := "mirrored"
  description := none
  parameters := ⟨[("port", ⟨some (.text "5023"), none⟩), ("partner", ⟨none, none⟩)], by decide⟩
  targets := ⟨[("sales", ⟨[], none, [salesBlock]⟩), ("mirror", ⟨["sales"], none, [mirrorBlock]⟩)],
    by decide⟩
  source := none

/-- The partner of the mirror. -/
def partner : Params :=
  ⟨[("partner", "SQL02,1433")], by decide⟩

/-- The steps of the database and its publication. -/
def salesSteps : List Step :=
  [.database ⟨"SQL01\\MAIN", "Sales", none, none, ["/srv/sql/init.sql"]⟩,
    .publication ⟨"SQL01\\MAIN", "Sales", "SalesPub", none, none,
      [⟨"dbo", "Orders"⟩, ⟨"crm", "Lines"⟩]⟩]

/-- The steps of the mirror. -/
def mirrorSteps : List Step :=
  [.mirroringEndpoint ⟨"SQL01\\MAIN", 5023⟩, .mirroringEndpoint ⟨"SQL02,1433", 5023⟩,
    .mirroringPartner ⟨"SQL02,1433", "Sales", "TCP://main.example:7022"⟩,
    .mirroringPartner ⟨"SQL01\\MAIN", "Sales", "TCP://SQL02:5023"⟩]

/-- The plan of the manifest. -/
def mirroredPlan : Plan :=
  ⟨⟨[("sales", ⟨[], salesSteps⟩), ("mirror", ⟨["sales"], mirrorSteps⟩)], by decide⟩⟩

/-- The manifest of the two blocks compiles to its plan. -/
theorem compile_mirrored :
    mirrored.compile partner (some "/srv/deploy") = .ok mirroredPlan := by
  let params := partner.put "port" "5023"
  have hparams : resolveParams mirrored.parameters partner = .ok params := rfl
  have hnone : mirrored.firstDependencyError? = none := by decide +kernel
  have hsales : blockSteps params "/srv/deploy" [salesBlock] = .ok salesSteps := by
    decide +kernel
  have hmirror : blockSteps params "/srv/deploy" [mirrorBlock] = .ok mirrorSteps := by
    decide +kernel
  have htargets : planTargets params (mirrored.base (some "/srv/deploy"))
      mirrored.targets.entries = .ok mirroredPlan.targets.entries := by
    have hbase : mirrored.base (some "/srv/deploy") = "/srv/deploy" := by decide +kernel
    rw [hbase]
    simp only [mirrored, planTargets, hsales, hmirror]
    rfl
  simp only [Manifest.compile_eq, hparams, hnone, htargets]
  rfl

end Sample

/-- The plan has the script from the base of the manifest, the tables with their schemas, and the
address of the partner made of its instance and the port. -/
theorem Manifest.corresponds_of_compile_sample :
    Sample.mirrored.compile Sample.partner (some "/srv/deploy") = .ok Sample.mirroredPlan ∧
    Sample.mirrored.Corresponds (Sample.mirrored.value? Sample.partner)
      (Sample.mirrored.base (some "/srv/deploy")) Sample.mirroredPlan :=
  ⟨Sample.compile_mirrored, (Manifest.corresponds_of_compile Sample.compile_mirrored).1⟩

end Rollout
