import Rollout.Proofs.Plan.Reading
import Rollout.Proofs.Plan.Redaction
import Rollout.Proofs.Template

/-!
# Passwords do not show in plans

Two compilations of a manifest whose parameters differ only in what passwords refer to cannot be
told apart: they fail with the same error, or come to plans that are the same once they are
redacted. The argument runs through the compilation one construct after the other
(`map_bind_congr`), where all but the passwords of logins and distributors are read from templates
that expand alike.
-/

namespace Rollout

section Except

variable {ε α β γ δ : Type}

/-- Computations look alike if their parts do: what is seen of the first determines what is seen of
the second. -/
theorem map_bind_congr {x y : Except ε α} {f f' : α → Except ε β} {g : α → γ} {k : β → δ}
    (hx : x.map g = y.map g) (hf : ∀ a b, g a = g b → (f a).map k = (f' b).map k) :
    (x >>= f).map k = (y >>= f').map k := by
  cases x with
  | error e => cases y <;> cases hx; rfl
  | ok a =>
    cases y with
    | error e => cases hx
    | ok b => exact hf a b (Except.ok.inj hx)

/-- Computations with the same first part look alike if the second parts do. -/
theorem map_bind_congr_right (x : Except ε α) {f f' : α → Except ε β} {k : β → δ}
    (hf : ∀ a, (f a).map k = (f' a).map k) : (x >>= f).map k = (x >>= f').map k := by
  cases x with
  | error e => rfl
  | ok a => exact hf a

/-- Two changes of a result are one. -/
theorem map_map_result (x : Except ε α) (f : α → β) (g : β → γ) :
    (x.map f).map g = x.map fun a => g (f a) := by
  cases x <;> rfl

end Except

/-- Parameters with values for the same names, and with the same values for some of them. -/
structure Params.Alike (names : List String) (a b : Params) : Prop where
  has_eq : ∀ name, a.has name = b.has name
  get?_eq : ∀ name ∈ names, a.get? name = b.get? name

namespace Params.Alike

variable {names : List String} {a b : Params}

/-- Parameters stay alike when the same value is put under the same name. -/
theorem put (h : Alike names a b) (name value : String) :
    Alike names (a.put name value) (b.put name value) where
  has_eq other := by
    have := h.has_eq other
    simp only [Listing.has, Listing.get?_put] at this ⊢
    split
    · rfl
    · exact this
  get?_eq other hmem := by rw [Listing.get?_put, Listing.get?_put, h.get?_eq other hmem]

/-- Parameters that are alike are completed alike. -/
theorem complete (h : Alike names a b) (declared : List (String × Parameter)) :
    (∃ e, completeParams a declared = .error e ∧ completeParams b declared = .error e) ∨
      ∃ a' b', completeParams a declared = .ok a' ∧ completeParams b declared = .ok b' ∧
        Alike names a' b' := by
  induction declared generalizing a b with
  | nil => exact .inr ⟨a, b, rfl, rfl, h⟩
  | cons p r ih =>
    obtain ⟨name, parameter⟩ := p
    simp only [completeParams, h.has_eq name]
    split
    · exact ih h
    · cases parameter.defaultText? with
      | none => exact .inl ⟨_, rfl, rfl⟩
      | some value => exact ih (h.put name value)

/-- A template that looks up no other names expands alike. -/
theorem expand_eq (h : Alike names a b) {t : Template} (ht : ∀ name ∈ t.lookups, name ∈ names) :
    t.expand a = t.expand b :=
  t.expand_congr fun name hname => h.get?_eq name (ht name hname)

/-- The expansions of any template fail alike. -/
theorem expand_error (h : ∀ name, a.has name = b.has name) {t : Template} {e : PlanError}
    (he : t.expand a = .error e) : t.expand b = .error e :=
  t.expandWith_error_congr (fun name _ => h name) he

end Params.Alike

open Params

/-- A password is present or absent, or fails to expand, alike. -/
theorem map_hide_text? {a b : Params} (h : ∀ name, a.has name = b.has name)
    (base instanceName : String) (o : Option Template) :
    (Site.text? ⟨a, base, instanceName⟩ o).map Step.hide =
      (Site.text? ⟨b, base, instanceName⟩ o).map Step.hide := by
  cases o with
  | none => rfl
  | some t =>
    show ((t.expand a).map some).map Step.hide = ((t.expand b).map some).map Step.hide
    cases ha : t.expand a with
    | error e => rw [Alike.expand_error h ha]
    | ok s =>
      -- no failure on one side only
      cases hb : t.expand b with
      | error e =>
        rw [Alike.expand_error (fun name => (h name).symm) hb] at ha
        cases ha
      | ok s' => rfl

namespace Operation

/-- An operation without its password. -/
def withoutPassword : Operation → Operation
  | login op => login { op with password := none }
  | distributor op => distributor { op with adminPassword := none }
  | op => op

variable {a b : Params} (hhas : ∀ name, a.has name = b.has name) (base instanceName : String)
include hhas

/-- The steps of a login show nothing of what its password refers to. -/
theorem Login.redact_step (op : Login)
    (h : ∀ t ∈ (login op).withoutPassword.templates, t.expand a = t.expand b) :
    (op.step ⟨a, base, instanceName⟩).map (fun s => [(Step.login s).redact]) =
      (op.step ⟨b, base, instanceName⟩).map fun s => [(Step.login s).redact] := by
  simp only [withoutPassword, templates, Option.toList_none, List.forall_mem_append] at h
  obtain ⟨⟨hname, hdatabase⟩, hroles⟩ := h
  unfold step
  rw [(Reads.text base instanceName op.name).congr hname,
    (Reads.text? base instanceName op.defaultDatabase).congr hdatabase,
    (Reads.texts base instanceName op.serverRoles).congr hroles]
  refine map_bind_congr_right _ fun name => ?_
  -- from here on the two logins may differ, but only in a password that both of them have
  refine map_bind_congr (map_hide_text? hhas base instanceName op.password) fun p q hpq => ?_
  refine map_bind_congr_right _ fun defaultDatabase => map_bind_congr_right _ fun roles => ?_
  show Except.ok _ = Except.ok _
  simp only [Step.redact, hpq]

/-- The steps of a distributor show nothing of what its password refers to. -/
theorem Distributor.redact_step (op : Distributor)
    (h : ∀ t ∈ (distributor op).withoutPassword.templates, t.expand a = t.expand b) :
    (op.step ⟨a, base, instanceName⟩).map (fun s => [(Step.distributor s).redact]) =
      (op.step ⟨b, base, instanceName⟩).map fun s => [(Step.distributor s).redact] := by
  simp only [withoutPassword, templates, Option.toList_none, List.append_nil,
    List.forall_mem_append] at h
  obtain ⟨⟨⟨⟨hdatabase, hmin⟩, hmax⟩, hhistory⟩, hsnapshot⟩ := h
  unfold step
  rw [(Reads.text? base instanceName op.databaseName).congr hdatabase,
    (Reads.value? base instanceName .int32 op.minRetention).congr hmin,
    (Reads.value? base instanceName .int32 op.maxRetention).congr hmax,
    (Reads.value? base instanceName .int32 op.historyRetention).congr hhistory,
    (Reads.text? base instanceName op.snapshotPath).congr hsnapshot]
  refine map_bind_congr_right _ fun databaseName => ?_
  refine map_bind_congr (map_hide_text? hhas base instanceName op.adminPassword) fun p q hpq => ?_
  refine map_bind_congr_right _ fun min => map_bind_congr_right _ fun max => ?_
  refine map_bind_congr_right _ fun history => map_bind_congr_right _ fun snapshotPath => ?_
  show Except.ok _ = Except.ok _
  simp only [Step.redact, hpq]

/-- The steps of an operation show nothing of what a password refers to. -/
theorem redact_steps (op : Operation)
    (h : ∀ t ∈ op.withoutPassword.templates, t.expand a = t.expand b) :
    (op.steps ⟨a, base, instanceName⟩).map (List.map Step.redact) =
      (op.steps ⟨b, base, instanceName⟩).map (List.map Step.redact) := by
  -- an operation without a password comes to the same steps
  have hsame (hop : op.withoutPassword = op) : op.steps ⟨a, base, instanceName⟩ =
      op.steps ⟨b, base, instanceName⟩ :=
    (op.reads_steps base instanceName).congr (hop ▸ h)
  cases op with
  | login op =>
    rw [steps, steps, map_map_result, map_map_result]
    exact op.redact_step hhas base instanceName h
  | distributor op =>
    rw [steps, steps, map_map_result, map_map_result]
    exact op.redact_step hhas base instanceName h
  | _ => rw [hsame rfl]

end Operation

/-- The templates of a block that show: all but passwords. -/
def Block.shownTemplates (b : Block) : List Template :=
  b.name :: b.operations.flatMap fun op => op.withoutPassword.templates

/-- The names that are looked up by templates other than passwords. -/
def Manifest.shownNames (m : Manifest) : List String :=
  m.targets.entries.flatMap fun (_, t) => t.blocks.flatMap fun b =>
    b.shownTemplates.flatMap Template.lookups

section TwoRuns

variable {a b : Params} (hhas : ∀ name, a.has name = b.has name) (base : String)
include hhas

theorem redact_operationSteps (instanceName : String) (ops : List Operation)
    (h : ∀ op ∈ ops, ∀ t ∈ op.withoutPassword.templates, t.expand a = t.expand b) :
    (operationSteps ⟨a, base, instanceName⟩ ops).map (List.map Step.redact) =
      (operationSteps ⟨b, base, instanceName⟩ ops).map (List.map Step.redact) := by
  induction ops with
  | nil => rfl
  | cons op r ih =>
    obtain ⟨hop, hr⟩ := List.forall_mem_cons.1 h
    unfold operationSteps
    refine map_bind_congr (op.redact_steps hhas base instanceName hop) fun s s' hs => ?_
    refine map_bind_congr (ih hr) fun rest rest' hrest => ?_
    show Except.ok _ = Except.ok _
    rw [List.map_append, List.map_append, hs, hrest]

theorem redact_blockSteps (blocks : List Block)
    (h : ∀ block ∈ blocks, ∀ t ∈ block.shownTemplates, t.expand a = t.expand b) :
    (blockSteps a base blocks).map (List.map Step.redact) =
      (blockSteps b base blocks).map (List.map Step.redact) := by
  induction blocks with
  | nil => rfl
  | cons block r ih =>
    obtain ⟨hblock, hr⟩ := List.forall_mem_cons.1 h
    obtain ⟨hname, hops⟩ := List.forall_mem_cons.1 hblock
    have hsteps (instanceName : String) :=
      redact_operationSteps hhas base instanceName block.operations fun op hop t ht =>
        hops t (List.mem_flatMap.2 ⟨op, hop, ht⟩)
    unfold blockSteps
    rw [hname]
    refine map_bind_congr_right _ fun instanceName => ?_
    refine map_bind_congr (hsteps instanceName) fun s s' hs => ?_
    refine map_bind_congr (ih hr) fun rest rest' hrest => ?_
    show Except.ok _ = Except.ok _
    rw [List.map_append, List.map_append, hs, hrest]

theorem redact_planTargets (targets : List (String × Target))
    (h : ∀ p ∈ targets, ∀ block ∈ p.2.blocks, ∀ t ∈ block.shownTemplates,
      t.expand a = t.expand b) :
    (planTargets a base targets).map (List.map fun p => (p.1, p.2.redact)) =
      (planTargets b base targets).map (List.map fun p => (p.1, p.2.redact)) := by
  induction targets with
  | nil => rfl
  | cons p r ih =>
    obtain ⟨hp, hr⟩ := List.forall_mem_cons.1 h
    unfold planTargets
    refine map_bind_congr (redact_blockSteps hhas base p.2.blocks hp) fun s s' hs => ?_
    refine map_bind_congr (ih hr) fun rest rest' hrest => ?_
    show Except.ok _ = Except.ok _
    rw [List.map_cons, List.map_cons, hrest, PlanTarget.redact, PlanTarget.redact, hs]

end TwoRuns

namespace Manifest

variable (m : Manifest)

/-- Templates of a manifest that show expand alike for parameters that are alike. -/
theorem expand_shown {a b : Params} (h : Alike m.shownNames a b) {p : String × Target}
    (hp : p ∈ m.targets.entries) {block : Block} (hblock : block ∈ p.2.blocks) {t : Template}
    (ht : t ∈ block.shownTemplates) : t.expand a = t.expand b := by
  refine h.expand_eq fun name hname => ?_
  unfold shownNames
  exact List.mem_flatMap.2 ⟨p, hp, List.mem_flatMap.2 ⟨block, hblock,
    List.mem_flatMap.2 ⟨t, ht, hname⟩⟩⟩

/-- Compilations by parameters that are alike fail alike, or come to plans that are the same once
they are redacted. -/
theorem redact_compile {a b : Params} (h : Alike m.shownNames a b) (base? : Option String) :
    (m.compile a base?).map Plan.redact = (m.compile b base?).map Plan.redact := by
  rw [compile_eq, compile_eq]
  rcases h.complete m.parameters.entries with ⟨e, ha, hb⟩ | ⟨a', b', ha, hb, h'⟩
  · rw [resolveParams, resolveParams, ha, hb]
  · rw [resolveParams, resolveParams, ha, hb]
    cases m.firstDependencyError? with
    | some e => rfl
    | none =>
      -- the completed parameters are alike too, so the targets look alike, and so do their plans
      have htargets := redact_planTargets h'.has_eq (m.base base?) m.targets.entries
        fun p hp block hblock t ht => m.expand_shown h' hp hblock ht
      have hredact (targets : List (String × PlanTarget)) :
          (Plan.mk (Listing.ofList targets)).redact =
            ⟨Listing.ofList (targets.map fun p => (p.1, p.2.redact))⟩ := by
        rw [Plan.redact, Listing.map_ofList]
      have hplans := congrArg (Except.map fun targets => Plan.mk (Listing.ofList targets)) htargets
      simpa only [map_map_result, hredact] using hplans

/-- Passwords do not show in plans. -/
theorem compile_hides_passwords (supplied supplied' : Params) (base? : Option String)
    (hhas : ∀ name, supplied.has name = supplied'.has name)
    (hshown : ∀ name ∈ m.shownNames, supplied.get? name = supplied'.get? name) :
    (∃ e, m.compile supplied base? = .error e ∧ m.compile supplied' base? = .error e) ∨
      ∃ p p', m.compile supplied base? = .ok p ∧ m.compile supplied' base? = .ok p' ∧
        p.toJson = p'.toJson ∧ p.fingerprint = p'.fingerprint ∧
        ∀ order, p.describe order = p'.describe order := by
  have h := m.redact_compile ⟨hhas, hshown⟩ base?
  cases hp : m.compile supplied base? with
  | error e =>
    cases hp' : m.compile supplied' base? with
    | error e' =>
      rw [hp, hp'] at h
      cases h
      exact .inl ⟨e, rfl, rfl⟩
    | ok p' =>
      rw [hp, hp'] at h
      cases h
  | ok p =>
    cases hp' : m.compile supplied' base? with
    | error e' =>
      rw [hp, hp'] at h
      cases h
    | ok p' =>
      rw [hp, hp'] at h
      have hpp : p.redact = p'.redact := Except.ok.inj h
      refine .inr ⟨p, p', rfl, rfl, ?_, ?_, fun order => ?_⟩
      · rw [← p.toJson_redact, hpp, p'.toJson_redact]
      · rw [← p.fingerprint_redact, hpp, p'.fingerprint_redact]
      · rw [← p.describe_redact, hpp, p'.describe_redact]

end Manifest

namespace Sample

/-- A manifest of one target, which ensures a login whose name and password are parameters. -/
def guarded : Manifest where
  name := "guarded"
  description := none
  parameters := .empty
  targets := .ofList [("base", ⟨[], none, [⟨⟨"SQL01"⟩, [.login ⟨⟨"\x7b\x7bparams.user\x7d\x7d"⟩,
    some ⟨"\x7b\x7bparams.password\x7d\x7d"⟩, none, []⟩]⟩]⟩)]
  source := none

/-- Parameters of the manifest with a password. -/
def guardedBy (password : String) : Params :=
  .ofList [("user", "reader"), ("password", password)]

theorem get?_guardedBy (password name : String) : (guardedBy password).get? name =
    if "password" = name then some password else if "user" = name then some "reader" else none := by
  simp [guardedBy, Listing.ofList]

theorem shownNames_guarded : guarded.shownNames = ["user"] := by
  decide +kernel

/-- The steps of the manifest with a password. -/
def guardedSteps (password : String) : List Step :=
  [.login ⟨"SQL01", "reader", some password, none, []⟩]

theorem allSteps_guarded :
    (guarded.compile (guardedBy "hunter2") none).toOption.map Plan.allSteps =
        some (guardedSteps "hunter2") ∧
      (guarded.compile (guardedBy "secret") none).toOption.map Plan.allSteps =
        some (guardedSteps "secret") := by
  decide +kernel

end Sample

/-- Two passwords for the login of the sample lead to plans with different steps that show the
same. -/
theorem Manifest.compile_hides_passwords_sample :
    ∃ p p', Sample.guarded.compile (Sample.guardedBy "hunter2") none = .ok p ∧
      Sample.guarded.compile (Sample.guardedBy "secret") none = .ok p' ∧
      p.allSteps = Sample.guardedSteps "hunter2" ∧ p'.allSteps = Sample.guardedSteps "secret" ∧
      p.toJson = p'.toJson ∧ p.fingerprint = p'.fingerprint ∧
      ∀ order, p.describe order = p'.describe order := by
  have hhas (name : String) :
      (Sample.guardedBy "hunter2").has name = (Sample.guardedBy "secret").has name := by
    simp only [Listing.has, Sample.get?_guardedBy]
    split <;> rfl
  have hshown : ∀ name ∈ Sample.guarded.shownNames,
      (Sample.guardedBy "hunter2").get? name = (Sample.guardedBy "secret").get? name := by
    simp [Sample.shownNames_guarded, Sample.get?_guardedBy]
  obtain ⟨hone, hother⟩ := Sample.allSteps_guarded
  rcases Sample.guarded.compile_hides_passwords _ _ none hhas hshown with
    ⟨e, he, -⟩ | ⟨p, p', hp, hp', hsame⟩
  · rw [he] at hone
    cases hone
  · rw [hp] at hone
    rw [hp'] at hother
    exact ⟨p, p', hp, hp', Option.some.inj hone, Option.some.inj hother, hsame⟩

end Rollout
