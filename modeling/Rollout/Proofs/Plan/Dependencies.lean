import Mathlib.Logic.Relation
import Rollout.Plan.Compile
import Rollout.Proofs.Listing

/-!
# Dependencies

A target of a plan depends on other targets directly, by its list of dependencies, or indirectly.
A plan that a manifest is compiled to is closed: every dependency in it is a target of the plan and
no target depends on itself directly (`closed_of_compile`). Indirect circles are possible, and are
what the order of execution has to find out.
-/

namespace Rollout

/-- A computation that goes on after another one succeeds only if both do. -/
theorem ok_of_bind {ε α β : Type} {x : Except ε α} {f : α → Except ε β} {b : β}
    (h : x >>= f = .ok b) : ∃ a, x = .ok a ∧ f a = .ok b := by
  cases x with
  | error e => cases h
  | ok a => exact ⟨a, rfl, h⟩

namespace Plan

/-- `p.Upstream t d` says that the target `t` depends on `d`, directly or not. -/
def Upstream (p : Plan) : String → String → Prop :=
  Relation.TransGen fun t d => d ∈ p.dependencies t

/-- A plan in which every dependency is a target other than the one that names it. -/
structure Closed (p : Plan) : Prop where
  has_dependency : ∀ {t d}, d ∈ p.dependencies t → p.has d = true
  ne_dependency : ∀ {t d}, d ∈ p.dependencies t → d ≠ t

/-- The dependencies of a target are those of its entry. -/
theorem mem_dependencies_iff (p : Plan) {t d : String} :
    d ∈ p.dependencies t ↔ ∃ e, (t, e) ∈ p.targets.entries ∧ d ∈ e.dependsOn := by
  unfold dependencies
  cases h : p.targets.get? t with
  | none =>
    -- a name without an entry depends on nothing
    have hn : ∀ e, (t, e) ∉ p.targets.entries := fun e he => by
      rw [(p.targets.get?_eq_some_iff t e).2 he] at h
      cases h
    simp [hn]
  | some e =>
    rw [p.targets.get?_eq_some_iff] at h
    constructor
    · exact fun hd => ⟨e, h, hd⟩
    · -- names are distinct, so the two entries are the same
      rintro ⟨e', he', hd⟩
      rw [← p.targets.get?_eq_some_iff] at h he'
      rwa [Option.some.inj (h.symm.trans he')]

end Plan

/-- The targets of a plan have the names and the dependencies of those of the manifest. -/
theorem dependsOn_planTargets {params : Params} {base : String} {l : List (String × Target)}
    {targets : List (String × PlanTarget)} (h : planTargets params base l = .ok targets) :
    targets.map (fun p => (p.1, p.2.dependsOn)) = l.map fun p => (p.1, p.2.dependsOn) := by
  induction l generalizing targets with
  | nil => cases h; rfl
  | cons p r ih =>
    obtain ⟨name, t⟩ := p
    obtain ⟨steps, -, h⟩ := ok_of_bind h
    obtain ⟨rest, hrest, h⟩ := ok_of_bind h
    cases h
    simp [ih hrest]

theorem names_planTargets {params : Params} {base : String} {l : List (String × Target)}
    {targets : List (String × PlanTarget)} (h : planTargets params base l = .ok targets) :
    targets.map Prod.fst = l.map Prod.fst := by
  simpa [Function.comp_def] using congrArg (List.map Prod.fst) (dependsOn_planTargets h)

namespace Manifest

/-- A manifest without a wrong dependency names only targets of its own, and no target names
itself. -/
theorem dependency_of_firstDependencyError? {m : Manifest} (h : m.firstDependencyError? = none)
    {name : String} {t : Target} (ht : (name, t) ∈ m.targets.entries) {d : String}
    (hd : d ∈ t.dependsOn) : m.targets.has d = true ∧ d ≠ name := by
  -- the search went past this dependency of this target
  have := List.findSome?_eq_none_iff.1 (List.findSome?_eq_none_iff.1 h _ ht) d hd
  unfold dependencyError? at this
  split at this
  · cases this
  · split at this
    · exact ⟨‹_›, ‹_›⟩
    · cases this

/-- The entries of a compiled plan, and the check that its dependencies have passed. -/
theorem ok_of_compile {m : Manifest} {supplied : Params} {base? : Option String} {p : Plan}
    (h : m.compile supplied base? = .ok p) :
    m.firstDependencyError? = none ∧
      p.targets.entries.map (fun e => (e.1, e.2.dependsOn)) =
        m.targets.entries.map fun e => (e.1, e.2.dependsOn) := by
  -- a compilation resolves the parameters, checks the dependencies and makes the targets
  obtain ⟨params, -, h⟩ := ok_of_bind h
  cases he : m.firstDependencyError? with
  | some e => simp [he, bind, Except.bind, throw, throwThe, MonadExceptOf.throw] at h
  | none =>
    simp only [he] at h
    obtain ⟨-, -, h⟩ := ok_of_bind h
    obtain ⟨targets, ht, h⟩ := ok_of_bind h
    cases h
    have hn := names_planTargets ht
    exact ⟨rfl, by rw [Listing.entries_ofList (hn ▸ m.targets.distinct), dependsOn_planTargets ht]⟩

/-- The plan of a manifest is closed. -/
theorem closed_of_compile {m : Manifest} {supplied : Params} {base? : Option String} {p : Plan}
    (h : m.compile supplied base? = .ok p) : p.Closed := by
  obtain ⟨hnone, he⟩ := ok_of_compile h
  have hnames : p.targets.names = m.targets.names := by
    simpa [Function.comp_def, Listing.names] using congrArg (List.map Prod.fst) he
  -- a dependency in the plan is one in the manifest, which was checked
  have key : ∀ {t d}, d ∈ p.dependencies t → m.targets.has d = true ∧ d ≠ t := by
    intro t d hd
    obtain ⟨e, hmem, hde⟩ := p.mem_dependencies_iff.1 hd
    have hpair : (t, e.dependsOn) ∈ m.targets.entries.map fun e => (e.1, e.2.dependsOn) :=
      he ▸ List.mem_map.2 ⟨_, hmem, rfl⟩
    obtain ⟨⟨n, mt⟩, hm, heq⟩ := List.mem_map.1 hpair
    obtain ⟨rfl, hdeps⟩ := Prod.mk.inj heq
    exact dependency_of_firstDependencyError? hnone hm (hdeps ▸ hde)
  constructor
  · intro t d hd
    have := (key hd).1
    rwa [Listing.has_iff, ← hnames, ← Listing.has_iff] at this
  · intro t d hd
    exact (key hd).2

end Manifest

end Rollout
