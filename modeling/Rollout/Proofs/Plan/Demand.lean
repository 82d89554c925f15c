import Rollout.Plan.Compile
import Rollout.Proofs.First
import Rollout.Proofs.Plan.Dependencies

/-!
# What compilation needs of its templates

A compilation demands of each template that it expands, and of some that the text is a value of a
type. It takes the demands part by part: the name of a block is a part, and so is each of its
operations. It has a result exactly if every demand is met, and an error is that of a demand in the
first part with one that is not met (`Needs`). This holds of each field of an operation, of what is
put together one after the other (`Needs.bind`), and so of blocks and targets.
-/

namespace Rollout

/-- A demand on a template: that it expands, or that it expands to a text that can be read. -/
inductive Demand : Type 1
  | text (t : Template)
  | value {α : Type} (reading : Template.Reading α) (t : Template)

namespace Demand

/-- The template of which something is demanded. -/
def template : Demand → Template
  | text t => t
  | value _ t => t

/-- Why a demand is not met by the values of names, if it is not. -/
def fault? (v : String → Option String) : Demand → Option PlanError
  | text t => match t.expandWith v with
    | .error e => some e
    | .ok _ => none
  | value reading t => match t.expandWith v with
    | .error e => some e
    | .ok s => match reading.read? (Text.trimChars s.toList) with
      | some _ => none
      | none => some (.conversion t.text s reading.typeName)

/-- A demand is met only if its template expands. -/
theorem exists_expandWith_of_fault? {v : String → Option String} {d : Demand}
    (h : d.fault? v = none) : ∃ s, d.template.expandWith v = .ok s := by
  cases d with
  | text t =>
    cases hs : t.expandWith v with
    | ok s => exact ⟨s, hs⟩
    | error e => simp [fault?, hs] at h
  | value reading t =>
    cases hs : t.expandWith v with
    | ok s => exact ⟨s, hs⟩
    | error e => simp [fault?, hs] at h

/-- A demand is not met because its template does not expand, or expands to a text that is no value
of the type it is read as. -/
theorem expandWith_of_fault? {v : String → Option String} {d : Demand} {e : PlanError}
    (h : d.fault? v = some e) : d.template.expandWith v = .error e ∨
      ∃ s expected, d.template.expandWith v = .ok s ∧
        e = .conversion d.template.text s expected := by
  cases d with
  | text t =>
    rw [fault?] at h
    cases hs : t.expandWith v with
    | ok s => simp [hs] at h
    | error e' =>
      rw [hs] at h
      cases h
      exact .inl hs
  | value reading t =>
    rw [fault?] at h
    cases hs : t.expandWith v with
    | error e' =>
      rw [hs] at h
      cases h
      exact .inl hs
    | ok s =>
      simp only [hs] at h
      split at h
      · cases h
      · cases h
        exact .inr ⟨s, reading.typeName, hs, rfl⟩

/-- Whether all demands of a part are met. -/
def Met (v : String → Option String) (part : List Demand) : Prop :=
  ∀ d ∈ part, d.fault? v = none

end Demand

open Demand

/-- A computation on parameters that makes demands, part by part. -/
structure Needs {α : Type} (parts : List (List Demand)) (x : Params → Except PlanError α) :
    Prop where
  /-- Parameters by which the templates expand alike lead to the same. -/
  congr : ∀ {a b}, (∀ part ∈ parts, ∀ d ∈ part, d.template.expand a = d.template.expand b) →
    x a = x b
  /-- There is a result only if every demand is met. -/
  met : ∀ {params r}, x params = .ok r → ∀ part ∈ parts, Met params.get? part
  /-- An error is that of a demand in the first part that has one which is not met. -/
  fails : ∀ {params e}, x params = .error e → ∃ part, First (Met params.get?) parts part ∧
    ∃ d ∈ part, d.fault? params.get? = some e

namespace Needs

variable {α β : Type} {parts parts' : List (List Demand)}

/-- A value is there without any demand. -/
theorem pure (a : α) : Needs [] fun _ => .ok a where
  congr _ := rfl
  met _ _ h := absurd h List.not_mem_nil
  fails h := nomatch h

/-- One computation after the other takes first the parts of the one, then those of the other. -/
theorem bind {x : Params → Except PlanError α} {f : α → Params → Except PlanError β}
    (hx : Needs parts x) (hf : ∀ a, Needs parts' (f a)) :
    Needs (parts ++ parts') fun params => x params >>= fun a => f a params where
  congr {a b} hab := by
    have hxa : x a = x b := hx.congr fun part h => hab part (List.mem_append_left _ h)
    have hfa (r : α) : f r a = f r b := (hf r).congr fun part h =>
      hab part (List.mem_append_right _ h)
    show x a >>= (fun r => f r a) = x b >>= fun r => f r b
    simp only [hxa, hfa]
  met hr part hpart := by
    obtain ⟨a, ha, hb⟩ := ok_of_bind hr
    rcases List.mem_append.1 hpart with hpart | hpart
    · exact hx.met ha part hpart
    · exact (hf a).met hb part hpart
  fails {params e} he := by
    -- the error is that of the first computation, or all its demands are met
    cases ha : x params with
    | error e' =>
      rw [ha] at he
      cases he
      obtain ⟨part, hfirst, hfault⟩ := hx.fails ha
      exact ⟨part, hfirst.append_left _, hfault⟩
    | ok a =>
      rw [ha] at he
      obtain ⟨part, hfirst, hfault⟩ := (hf a).fails he
      exact ⟨part, hfirst.append_right (hx.met ha), hfault⟩

/-- What is made of a result by a function demands nothing more. -/
theorem map {x : Params → Except PlanError α} (hx : Needs parts x) (f : α → β) :
    Needs parts fun params => (x params).map f := by
  have h := hx.bind fun a => pure (f a)
  rw [List.append_nil] at h
  have he : (fun params => x params >>= fun a => .ok (f a)) = fun params => (x params).map f := by
    funext params
    cases x params <;> rfl
  exact he ▸ h

/-- Parts may be seen as one part that makes all their demands, in any order. -/
theorem join {x : Params → Except PlanError α} (hx : Needs parts x) {ds : List Demand}
    (hmem : ∀ d, d ∈ parts.flatten ↔ d ∈ ds) : Needs [ds] x where
  congr hab := hx.congr fun part hpart d hd =>
    hab ds (List.mem_singleton_self ds) d ((hmem d).1 (List.mem_flatten.2 ⟨part, hpart, hd⟩))
  met hr part hpart d hd := by
    obtain rfl := List.mem_singleton.1 hpart
    obtain ⟨part', hpart', hd'⟩ := List.mem_flatten.1 ((hmem d).2 hd)
    exact hx.met hr part' hpart' d hd'
  fails he := by
    obtain ⟨part, hfirst, d, hd, hfault⟩ := hx.fails he
    have hds : d ∈ ds := (hmem d).1 (List.mem_flatten.2 ⟨part, hfirst.mem, hd⟩)
    refine ⟨ds, .here fun hmet => ?_, d, hds, hfault⟩
    cases (hmet d hds).symm.trans hfault

/-- A template needs the values of the names in it. -/
theorem expand (t : Template) : Needs [[.text t]] fun params => t.expand params where
  congr h := h _ (List.mem_singleton_self _) _ (List.mem_singleton_self _)
  met {params r} hr := by
    have hfault : fault? params.get? (.text t) = none := by
      rw [Template.expand] at hr
      rw [fault?, hr]
    simpa [Met] using hfault
  fails {params e} he := by
    have hfault : fault? params.get? (.text t) = some e := by
      rw [Template.expand] at he
      rw [fault?, he]
    exact ⟨_, .here fun hmet => by simp [Met, hfault] at hmet, _, List.mem_singleton_self _, hfault⟩

/-- A text is read as a value exactly if the demand for it is met, and fails with its fault. -/
theorem fault?_value (reading : Template.Reading α) (params : Params) (t : Template) :
    fault? params.get? (.value reading t) =
      match t.expandAs reading params with
      | .error e => some e
      | .ok _ => none := by
  rw [fault?, Template.expandAs, Template.expand]
  cases t.expandWith params.get? with
  | error e => rfl
  | ok s => cases hread : reading.read? (Text.trimChars s.toList) <;> simp only [hread]

/-- A template that is read as a value needs a text that can be read so. -/
theorem expandAs (reading : Template.Reading α) (t : Template) :
    Needs [[.value reading t]] fun params => t.expandAs reading params where
  congr {a b} h := by
    have ht : t.expand a = t.expand b :=
      h _ (List.mem_singleton_self _) _ (List.mem_singleton_self _)
    show t.expandAs reading a = t.expandAs reading b
    rw [Template.expandAs, Template.expandAs, ht]
  met {params r} hr := by
    have hfault := fault?_value reading params t
    rw [hr] at hfault
    simpa [Met] using hfault
  fails {params e} he := by
    have hfault := fault?_value reading params t
    rw [he] at hfault
    exact ⟨_, .here fun hmet => by simp [Met, hfault] at hmet, _, List.mem_singleton_self _,
      hfault⟩

section Site

variable (base instanceName : String)

/-- A text of an operation has one demand. -/
theorem text (t : Template) :
    Needs [[.text t]] fun params => Site.text ⟨params, base, instanceName⟩ t :=
  expand t

/-- An optional text has one demand if it is there. -/
theorem text? (o : Option Template) :
    Needs (o.toList.map fun t => [.text t]) fun params =>
      Site.text? ⟨params, base, instanceName⟩ o := by
  cases o with
  | none => exact pure none
  | some t => exact (expand t).map some

/-- The texts of a list have one demand each, in their order. -/
theorem texts (ts : List Template) :
    Needs (ts.map fun t => [.text t]) fun params =>
      Site.texts ⟨params, base, instanceName⟩ ts := by
  induction ts with
  | nil => exact pure []
  | cons t r ih => exact (expand t).bind fun text => ih.map (text :: ·)

/-- An optional value has one demand if it is there. -/
theorem value? (reading : Template.Reading α) (o : Option Template) :
    Needs (o.toList.map fun t => [.value reading t]) fun params =>
      Site.value? ⟨params, base, instanceName⟩ reading o := by
  cases o with
  | none => exact pure none
  | some t => exact (expandAs reading t).map some

end Site

end Needs

open Needs

namespace Operation

/-- The demands of an operation, one on each of its templates in the order of its fields. -/
def demands : Operation → List Demand
  | login op =>
    .text op.name ::
      (op.password.toList ++ op.defaultDatabase.toList ++ op.serverRoles).map .text
  | database op =>
    .text op.name :: op.recoveryModel.toList.map (.value .recoveryModel) ++
      (op.owner.toList ++ op.scripts).map .text
  | distributor op =>
    (op.databaseName.toList ++ op.adminPassword.toList).map .text ++
      (op.minRetention.toList ++ op.maxRetention.toList ++ op.historyRetention.toList).map
        (.value .int32) ++
      op.snapshotPath.toList.map .text
  | publication op =>
    (op.databaseName :: op.name :: op.distributorInstance.toList ++ op.description.toList ++
      op.articles).map .text
  | subscription op =>
    [op.databaseName, op.publisherInstance, op.publisherDatabaseName, op.publicationName].map .text
  | backup op =>
    .text op.databaseName :: .text op.path :: op.copyOnly.toList.map (.value .flag)
  | restore op =>
    .text op.databaseName :: .text op.path :: op.recovery.toList.map (.value .flag)
  | mirroring op =>
    .text op.databaseName :: .text op.partnerInstance :: op.port.toList.map (.value .uint16) ++
      (op.partnerAddress.toList ++ op.principalAddress.toList).map .text

/-- An operation makes a demand on each of its templates. -/
theorem map_template_demands (op : Operation) : op.demands.map Demand.template = op.templates := by
  cases op <;> simp [demands, templates, Function.comp_def, Demand.template]

variable (base instanceName : String)

/-- The fields of a login are expanded in the order in which they are listed. -/
theorem Login.needs_step (op : Login) :
    Needs [(login op).demands] fun params => op.step ⟨params, base, instanceName⟩ := by
  have h := (text base instanceName op.name).bind fun name =>
    (text? base instanceName op.password).bind fun password =>
    (text? base instanceName op.defaultDatabase).bind fun defaultDatabase =>
    (texts base instanceName op.serverRoles).map fun serverRoles =>
      (⟨instanceName, name, password, defaultDatabase, serverRoles⟩ : Step.Login)
  exact h.join fun d => by simp [demands, @eq_comm _ d]

/-- The scripts of a database are expanded first and listed last. -/
theorem Database.needs_step (op : Database) :
    Needs [(database op).demands] fun params => op.step ⟨params, base, instanceName⟩ := by
  have h := (texts base instanceName op.scripts).bind fun scripts =>
    (text base instanceName op.name).bind fun name =>
    (value? base instanceName .recoveryModel op.recoveryModel).bind fun recoveryModel =>
    (text? base instanceName op.owner).map fun owner =>
      (⟨instanceName, name, recoveryModel, owner, scripts.map (Path.resolve base)⟩ : Step.Database)
  exact h.join fun d => by simp [demands, @eq_comm _ d, or_assoc, or_left_comm, or_comm]

/-- The three retentions of a distributor are read as numbers, each as soon as it is expanded. -/
theorem Distributor.needs_step (op : Distributor) :
    Needs [(distributor op).demands] fun params => op.step ⟨params, base, instanceName⟩ := by
  have h := (text? base instanceName op.databaseName).bind fun databaseName =>
    (text? base instanceName op.adminPassword).bind fun adminPassword =>
    (value? base instanceName .int32 op.minRetention).bind fun minRetention =>
    (value? base instanceName .int32 op.maxRetention).bind fun maxRetention =>
    (value? base instanceName .int32 op.historyRetention).bind fun historyRetention =>
    (text? base instanceName op.snapshotPath).map fun snapshotPath =>
      (⟨instanceName, databaseName, adminPassword, minRetention, maxRetention, historyRetention,
        snapshotPath⟩ : Step.Distributor)
  exact h.join fun d => by simp [demands, @eq_comm _ d]

/-- An article is expanded like any other text, and its name is taken apart without a demand. -/
theorem Publication.needs_step (op : Publication) :
    Needs [(publication op).demands] fun params => op.step ⟨params, base, instanceName⟩ := by
  have h := (text base instanceName op.databaseName).bind fun databaseName =>
    (text base instanceName op.name).bind fun name =>
    (text? base instanceName op.distributorInstance).bind fun distributorInstance =>
    (text? base instanceName op.description).bind fun description =>
    (texts base instanceName op.articles).map fun articles =>
      (⟨instanceName, databaseName, name, distributorInstance, description,
        articles.map Article.parse⟩ : Step.Publication)
  exact h.join fun d => by simp [demands, @eq_comm _ d]

/-- A subscription has four texts, all of which it must have. -/
theorem Subscription.needs_step (op : Subscription) :
    Needs [(subscription op).demands] fun params => op.step ⟨params, base, instanceName⟩ := by
  have h := (text base instanceName op.databaseName).bind fun databaseName =>
    (text base instanceName op.publisherInstance).bind fun publisherInstance =>
    (text base instanceName op.publisherDatabaseName).bind fun publisherDatabaseName =>
    (text base instanceName op.publicationName).map fun publicationName =>
      (⟨instanceName, databaseName, publisherInstance, publisherDatabaseName,
        publicationName⟩ : Step.PullSubscription)
  exact h.join fun d => by simp [demands]

/-- The path of a backup is resolved without a demand of its own. -/
theorem Backup.needs_step (op : Backup) :
    Needs [(backup op).demands] fun params => op.step ⟨params, base, instanceName⟩ := by
  have h := (text base instanceName op.databaseName).bind fun databaseName =>
    (text base instanceName op.path).bind fun path =>
    (value? base instanceName .flag op.copyOnly).map fun copyOnly =>
      (⟨instanceName, databaseName, Path.resolve base path, copyOnly.getD false⟩ : Step.Backup)
  exact h.join fun d => by simp [demands, @eq_comm _ d]

/-- A restore demands what a backup does, with the flag for the recovery as the last. -/
theorem Restore.needs_step (op : Restore) :
    Needs [(restore op).demands] fun params => op.step ⟨params, base, instanceName⟩ := by
  have h := (text base instanceName op.databaseName).bind fun databaseName =>
    (text base instanceName op.path).bind fun path =>
    (value? base instanceName .flag op.recovery).map fun recovery =>
      (⟨instanceName, databaseName, Path.resolve base path, recovery.getD true⟩ : Step.Restore)
  exact h.join fun d => by simp [demands, @eq_comm _ d]

/-- The partner of mirroring is expanded first and listed second. -/
theorem Mirroring.needs_steps (op : Mirroring) :
    Needs [(mirroring op).demands] fun params => op.steps ⟨params, base, instanceName⟩ := by
  have h := (text base instanceName op.partnerInstance).bind fun partner =>
    (text base instanceName op.databaseName).bind fun databaseName =>
    (value? base instanceName .uint16 op.port).bind fun port? =>
    (text? base instanceName op.partnerAddress).bind fun partnerAddress? =>
    (text? base instanceName op.principalAddress).map fun principalAddress? =>
      let port := port?.getD defaultMirroringPort
      let partnerAddress := partnerAddress?.getD (endpointAddress partner port)
      let principalAddress := principalAddress?.getD (endpointAddress instanceName port)
      [Step.mirroringEndpoint ⟨instanceName, port⟩, .mirroringEndpoint ⟨partner, port⟩,
        .mirroringPartner ⟨partner, databaseName, principalAddress⟩,
        .mirroringPartner ⟨instanceName, databaseName, partnerAddress⟩]
  exact h.join fun d => by simp [demands, @eq_comm _ d, or_left_comm]

/-- The steps of an operation need what the operation demands. -/
theorem needs_steps (op : Operation) :
    Needs [op.demands] fun params => op.steps ⟨params, base, instanceName⟩ := by
  cases op with
  | login op => exact (op.needs_step base instanceName).map _
  | database op => exact (op.needs_step base instanceName).map _
  | distributor op => exact (op.needs_step base instanceName).map _
  | publication op => exact (op.needs_step base instanceName).map _
  | subscription op => exact (op.needs_step base instanceName).map _
  | backup op => exact (op.needs_step base instanceName).map _
  | restore op => exact (op.needs_step base instanceName).map _
  | mirroring op => exact op.needs_steps base instanceName

end Operation

/-- The parts of a block: its name, then each of its operations. -/
def Block.parts (b : Block) : List (List Demand) :=
  [.text b.name] :: b.operations.map Operation.demands

/-- The parts of a target: those of its blocks. -/
def Target.parts (t : Target) : List (List Demand) :=
  t.blocks.flatMap Block.parts

/-- The parts of a manifest: those of its targets. -/
def Manifest.parts (m : Manifest) : List (List Demand) :=
  m.targets.entries.flatMap fun (_, t) => t.parts

/-- Operations need what each of them needs, the first of them first. -/
theorem needs_operationSteps (base instanceName : String) (ops : List Operation) :
    Needs (ops.map Operation.demands) fun params =>
      operationSteps ⟨params, base, instanceName⟩ ops := by
  induction ops with
  | nil => exact pure []
  | cons op r ih =>
    exact (op.needs_steps base instanceName).bind fun steps => ih.map (steps ++ ·)

/-- The name of a block is expanded before the steps of its operations are made. -/
theorem needs_blockSteps (base : String) (blocks : List Block) :
    Needs (blocks.flatMap Block.parts) fun params => blockSteps params base blocks := by
  induction blocks with
  | nil => exact pure []
  | cons b r ih =>
    exact (expand b.name).bind fun instanceName =>
      (needs_operationSteps base instanceName b.operations).bind fun steps => ih.map (steps ++ ·)

/-- The targets of a plan need what the blocks of the manifest demand. -/
theorem needs_planTargets (base : String) (targets : List (String × Target)) :
    Needs (targets.flatMap fun (_, t) => t.parts) fun params =>
      planTargets params base targets := by
  induction targets with
  | nil => exact pure []
  | cons p r ih =>
    exact (needs_blockSteps base p.2.blocks).bind fun steps =>
      ih.map ((p.1, (⟨p.2.dependsOn, steps⟩ : PlanTarget)) :: ·)

end Rollout
