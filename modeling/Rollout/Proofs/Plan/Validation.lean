import Rollout.Manifest.Check
import Rollout.Proofs.Plan.Completion
import Rollout.Proofs.Plan.Reading
import Rollout.Proofs.Template

/-!
# Checks and compilation agree

The checks of a manifest and its compilation go over the same dependencies and the same templates,
each in its own way. A manifest that passes the checks fails to compile only for what the parameters
are, and a manifest that compiles, be it for some parameters only, has no defects but those of
names.
-/

namespace Rollout

/-- Whether an error is about the values of parameters: one that is missing, or one that is not of
the type it is read as. -/
def PlanError.isOfValues : PlanError → Bool
  | missingParameter _ | missingReference _ _ | conversion _ _ _ => true
  | malformed _ _ | unknownDependency _ _ | selfDependency _ | unknownTarget _ | cycle _ => false

/-- Whether a defect is one of a name: that of a parameter, that of a target, or the blank name of a
block. -/
def Defect.isOfName : Defect → Bool
  | parameterName _ | targetName _ | namelessBlock _ _ => true
  | selfDependency _ | unknownDependency _ _ | blockName _ _ | operation _ _ _ => false

/-- What is read of well-formed templates fails only for the values of parameters. -/
theorem Reads.isOfValues {α : Type} {ts : List Template} {x : Params → Except PlanError α}
    (hx : Reads ts x) (hcheck : ∀ t ∈ ts, t.check = .ok ()) {params : Params} {e : PlanError}
    (he : x params = .error e) : e.isOfValues = true := by
  obtain ⟨t, ht, hfail | ⟨value, expected, -, rfl⟩⟩ := hx.fails he
  · rcases t.error_of_expandWith hfail with hc | ⟨name, -, -, rfl⟩
    · rw [hcheck t ht] at hc
      cases hc
    · rfl
  · rfl

/-- What has been read comes of well-formed templates. -/
theorem Reads.check {α : Type} {ts : List Template} {x : Params → Except PlanError α}
    (hx : Reads ts x) {params : Params} {r : α} (hr : x params = .ok r) :
    ∀ t ∈ ts, t.check = .ok () := by
  intro t ht
  exact (t.exists_expandWith_eq_ok_iff.1 (hx.expands hr t ht)).1

namespace Manifest

variable (m : Manifest)

/-- A manifest whose dependencies and templates are as they should be. -/
structure WellFormed : Prop where
  firstDependencyError? : m.firstDependencyError? = none
  check : ∀ t ∈ m.templates, t.check = .ok ()

/-- The defect of a template is not that of a name, so there must be none. -/
theorem isOfName_templateDefect?_iff (defect : PlanError → Defect)
    (hdefect : ∀ e, (defect e).isOfName = false) (t : Template) :
    (∀ d, templateDefect? defect t = some d → d.isOfName = true) ↔ t.check = .ok () := by
  unfold templateDefect?
  cases t.check <;> simp [hdefect]

/-- The defect of a dependency is not that of a name, so there must be none. -/
theorem isOfName_dependencyDefect?_iff (target dependency : String) :
    (∀ d, m.dependencyDefect? target dependency = some d → d.isOfName = true) ↔
      m.dependencyError? target dependency = none := by
  unfold dependencyDefect? dependencyError?
  split
  · simp [Defect.isOfName]
  · split <;> simp [Defect.isOfName]

/-- A block has no defects but of names exactly if its templates are well formed. -/
theorem isOfName_blockDefects_iff (target : String) (number : Nat) (b : Block) :
    (∀ d ∈ blockDefects target number b, d.isOfName = true) ↔
      ∀ t ∈ b.templates, t.check = .ok () := by
  have hblank : ∀ d ∈ (if Text.isBlankText b.name.text then [Defect.namelessBlock target number]
      else []), d.isOfName = true := by
    split <;> simp [Defect.isOfName]
  have hname := isOfName_templateDefect?_iff (.blockName target) (fun _ => rfl) b.name
  have hop (op : Operation) :=
    isOfName_templateDefect?_iff (.operation target op.kind) fun _ => rfl
  unfold blockDefects Block.templates
  simp only [List.mem_append, or_imp, forall_and, Option.mem_toList, List.mem_flatMap,
    List.mem_filterMap, List.mem_cons, forall_exists_index, and_imp, forall_eq]
  constructor
  · rintro ⟨⟨-, hn⟩, ho⟩
    exact ⟨hname.1 hn, fun t op hmem ht => (hop op t).1 fun d hd => ho d op hmem t ht hd⟩
  · rintro ⟨hn, ho⟩
    exact ⟨⟨hblank, hname.2 hn⟩, fun d op hmem t ht => (hop op t).2 (ho t op hmem ht) d⟩

/-- A target has no defects but of names exactly if its dependencies and its templates are as they
should be. -/
theorem isOfName_targetDefects_iff (name : String) (t : Target) :
    (∀ d ∈ m.targetDefects name t, d.isOfName = true) ↔
      (∀ d ∈ t.dependsOn, m.dependencyError? name d = none) ∧
        ∀ u ∈ t.blocks.flatMap Block.templates, u.check = .ok () := by
  have hname : ∀ d ∈ (if isTargetName name then [] else [Defect.targetName name]),
      d.isOfName = true := by
    split <;> simp [Defect.isOfName]
  have hdep := m.isOfName_dependencyDefect?_iff name
  unfold targetDefects
  simp only [List.mem_append, or_imp, forall_and, List.mem_flatMap, List.mem_filterMap,
    forall_exists_index, and_imp]
  constructor
  · rintro ⟨⟨-, hd⟩, hb⟩
    refine ⟨fun d hmem => (hdep d).1 fun x hx => hd x d hmem hx, fun u b hmem hu => ?_⟩
    -- the block has a number, under which its defects are looked for
    obtain ⟨⟨b', number⟩, hz, rfl⟩ : ∃ p ∈ t.blocks.zipIdx 1, p.1 = b := by
      rwa [← List.mem_map, List.zipIdx_map_fst]
    exact (isOfName_blockDefects_iff name number b').1 (fun x hx => hb x _ hz hx) u hu
  · rintro ⟨hd, hb⟩
    refine ⟨⟨hname, fun x d hmem => (hdep d).2 (hd d hmem) x⟩, fun x p hz => ?_⟩
    have hmem : p.1 ∈ t.blocks := by
      rw [← List.zipIdx_map_fst 1 t.blocks]
      exact List.mem_map_of_mem hz
    exact (isOfName_blockDefects_iff name p.2 p.1).2 (fun u hu => hb u p.1 hmem hu) x

/-- A manifest has no defects but of names exactly if it is well formed. -/
theorem isOfName_defects_iff : (∀ d ∈ m.defects, d.isOfName = true) ↔ m.WellFormed := by
  have htarget (p : String × Target) := m.isOfName_targetDefects_iff p.1 p.2
  have hdeps : m.firstDependencyError? = none ↔
      ∀ p ∈ m.targets.entries, ∀ d ∈ p.2.dependsOn, m.dependencyError? p.1 d = none := by
    simp only [firstDependencyError?, List.findSome?_eq_none_iff]
  have htemplates : (∀ t ∈ m.templates, t.check = .ok ()) ↔
      ∀ p ∈ m.targets.entries, ∀ u ∈ p.2.blocks.flatMap Block.templates, u.check = .ok () := by
    refine ⟨fun h p hp u hu => h u (List.mem_flatMap.2 ⟨p, hp, hu⟩), fun h u hu => ?_⟩
    obtain ⟨p, hp, hu⟩ := List.mem_flatMap.1 hu
    exact h p hp u hu
  have hparams : ∀ d ∈ (m.parameters.names.filter (!isParameterName ·)).map Defect.parameterName,
      d.isOfName = true := by
    intro d hd
    obtain ⟨name, -, rfl⟩ := List.mem_map.1 hd
    rfl
  constructor
  · -- the defects of a target are among those of the manifest
    intro h
    have ht (p) (hp : p ∈ m.targets.entries) := (htarget p).1 fun d hd =>
      h d (List.mem_append_right _ (List.mem_flatMap.2 ⟨p, hp, hd⟩))
    exact ⟨hdeps.2 fun p hp => (ht p hp).1, htemplates.2 fun p hp => (ht p hp).2⟩
  · rintro ⟨hd, ht⟩ d hmem
    rcases List.mem_append.1 hmem with hmem | hmem
    · exact hparams d hmem
    · obtain ⟨p, hp, hmem⟩ := List.mem_flatMap.1 hmem
      exact (htarget p).2 ⟨hdeps.1 hd p hp, htemplates.1 ht p hp⟩ d hmem

/-- A well-formed manifest fails to compile only for the values of parameters. -/
theorem WellFormed.isOfValues {m : Manifest} (h : m.WellFormed) {supplied : Params}
    {base? : Option String} {e : PlanError} (he : m.compile supplied base? = .error e) :
    e.isOfValues = true := by
  -- the dependencies are in order, so the parameters or the targets are to blame
  rw [compile_eq, h.firstDependencyError?] at he
  cases hparams : resolveParams m.parameters supplied with
  | error e' =>
    rw [hparams] at he
    cases he
    obtain ⟨p, -, rfl⟩ := resolveParams_eq_error_iff.1 hparams
    rfl
  | ok params =>
    rw [hparams] at he
    cases ht : planTargets params (m.base base?) m.targets.entries with
    | ok targets => simp [ht, Except.map] at he
    | error e' =>
      simp only [ht, Except.map] at he
      cases he
      exact (m.reads_planTargets _).isOfValues h.check ht

/-- A manifest that compiles is well formed. -/
theorem wellFormed_of_compile {supplied : Params} {base? : Option String} {p : Plan}
    (h : m.compile supplied base? = .ok p) : m.WellFormed := by
  rw [compile_eq] at h
  cases hparams : resolveParams m.parameters supplied with
  | error e => simp [hparams] at h
  | ok params =>
    cases hdeps : m.firstDependencyError? with
    | some e => simp [hparams, hdeps] at h
    | none =>
      cases ht : planTargets params (m.base base?) m.targets.entries with
      | error e => simp [hparams, hdeps, ht, Except.map] at h
      | ok targets => exact ⟨hdeps, (m.reads_planTargets _).check ht⟩

/-- Checks and compilation agree. A manifest without defects compiles for all parameters and bases,
or fails for the values of the parameters alone; and a manifest that compiles for some parameters
and some base has no defects but those of names. -/
theorem defects_agree_with_compile :
    (m.defects = [] → ∀ (supplied : Params) (base? : Option String),
        (∃ p, m.compile supplied base? = .ok p) ∨
          ∃ e, m.compile supplied base? = .error e ∧ e.isOfValues = true) ∧
      ((∃ (supplied : Params) (base? : Option String) (p : Plan),
        m.compile supplied base? = .ok p) → ∀ d ∈ m.defects, d.isOfName = true) := by
  constructor
  · intro h supplied base?
    have hwell : m.WellFormed := m.isOfName_defects_iff.1 (by simp [h])
    cases hc : m.compile supplied base? with
    | ok p => exact .inl ⟨p, rfl⟩
    | error e => exact .inr ⟨e, rfl, hwell.isOfValues hc⟩
  · rintro ⟨supplied, base?, p, h⟩
    exact m.isOfName_defects_iff.2 (m.wellFormed_of_compile h)

end Manifest

end Rollout
