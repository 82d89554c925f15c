import Rollout.Proofs.Plan.Completion
import Rollout.Proofs.Plan.Correspondence
import Rollout.Proofs.Plan.Reading

/-!
# When compilation succeeds, and what it fails for

A manifest compiles exactly if its parameters have values, its dependencies name other targets of
the manifest, and every demand on a template is met. Otherwise the error is that of the first
parameter without a value, or else of the first wrong dependency, or else of a demand in the first
block name or operation that has one which is not met. A plan that is made is the whole one that
corresponds to the manifest (`compile_precedence`).
-/

namespace Rollout

open Demand

/-- A search for a fault goes past what has none, and stops at the first that has one. -/
theorem findSome?_cases {α β : Type} (f : α → Option β) (l : List α) :
    (l.findSome? f = none ∧ ∀ a ∈ l, f a = none) ∨
      ∃ a b, First (fun a => f a = none) l a ∧ f a = some b ∧ l.findSome? f = some b := by
  induction l with
  | nil => exact .inl ⟨rfl, fun _ h => absurd h List.not_mem_nil⟩
  | cons x r ih =>
    rw [List.findSome?_cons]
    cases hx : f x with
    | some b => exact .inr ⟨x, b, .here (by simp [hx]), hx, rfl⟩
    | none =>
      exact ih.imp (fun ⟨hnone, hall⟩ => ⟨hnone, List.forall_mem_cons.2 ⟨hx, hall⟩⟩)
        fun ⟨a, b, hfirst, ha, hb⟩ => ⟨a, b, .there hx hfirst, ha, hb⟩

namespace Manifest

variable (m : Manifest)

/-- The dependencies of a manifest, each with the target that names it: in the order of the targets,
and of the list of each. -/
def dependencyPairs : List (String × String) :=
  m.targets.entries.flatMap fun (name, t) => t.dependsOn.map fun d => (name, d)

/-- Whether a target depends on a target of the manifest other than itself. -/
def Sound (p : String × String) : Prop :=
  p.2 ≠ p.1 ∧ m.targets.has p.2 = true

/-- What is wrong with a dependency that is not sound. -/
def dependencyFault (p : String × String) : PlanError :=
  if p.2 = p.1 then .selfDependency p.1 else .unknownDependency p.1 p.2

/-- A dependency is in order exactly if it is sound. -/
theorem dependencyError?_eq_none_iff (p : String × String) :
    m.dependencyError? p.1 p.2 = none ↔ m.Sound p := by
  unfold dependencyError? Sound
  by_cases hself : p.2 = p.1
  · simp [hself]
  · by_cases hhas : m.targets.has p.2 <;> simp [hself, hhas]

theorem dependencyFault_of_dependencyError? {p : String × String} {e : PlanError}
    (h : m.dependencyError? p.1 p.2 = some e) : e = dependencyFault p := by
  unfold dependencyError? at h
  unfold dependencyFault
  by_cases hself : p.2 = p.1
  · simpa [hself] using h.symm
  · by_cases hhas : m.targets.has p.2
    · simp [hself, hhas] at h
    · simpa [hself, hhas] using h.symm

/-- Dependencies are checked one after the other. -/
theorem firstDependencyError?_eq :
    m.firstDependencyError? = m.dependencyPairs.findSome? fun p => m.dependencyError? p.1 p.2 := by
  unfold firstDependencyError? dependencyPairs
  induction m.targets.entries with
  | nil => rfl
  | cons p r ih =>
    rw [List.findSome?_cons, List.flatMap_cons, List.findSome?_append, List.findSome?_map, ← ih]
    simp only [Function.comp_def]
    cases p.2.dependsOn.findSome? (m.dependencyError? p.1) <;> rfl

/-- The check of the dependencies passes if all are sound, and stops at the first that is not. -/
theorem firstDependencyError?_cases :
    (m.firstDependencyError? = none ∧ ∀ d ∈ m.dependencyPairs, m.Sound d) ∨
      ∃ d, First m.Sound m.dependencyPairs d ∧
        m.firstDependencyError? = some (dependencyFault d) := by
  rw [firstDependencyError?_eq]
  rcases findSome?_cases (fun p => m.dependencyError? p.1 p.2) m.dependencyPairs with
    ⟨hnone, hall⟩ | ⟨d, e, hfirst, he, hsome⟩
  · exact .inl ⟨hnone, fun d hd => (m.dependencyError?_eq_none_iff d).1 (hall d hd)⟩
  · rw [hsome, m.dependencyFault_of_dependencyError? he]
    exact .inr ⟨d, hfirst.congr fun p _ => m.dependencyError?_eq_none_iff p, rfl⟩

/-- Whether every parameter has a value. -/
def Complete (supplied : Params) : Prop :=
  ∀ p ∈ m.parameters.entries, supplied.Gives p

/-- Whether every dependency is sound. -/
def Consistent : Prop :=
  ∀ d ∈ m.dependencyPairs, m.Sound d

/-- Whether the name of every block and every template of an operation expand, and, where they are
read as values, can be read. -/
def Fulfilled (supplied : Params) : Prop :=
  ∀ part ∈ m.parts, ∀ d ∈ part, d.fault? (m.value? supplied) = none

variable {m} {supplied : Params} {base? : Option String}

/-- A manifest with values for its parameters and sound dependencies compiles to the targets that
its blocks come to. -/
theorem compile_of_complete (base? : Option String) (hc : m.Complete supplied)
    (hs : m.Consistent) :
    ((∃ p, m.compile supplied base? = .ok p) ∧ m.Fulfilled supplied) ∨
      ∃ part, First (Met (m.value? supplied)) m.parts part ∧
        ∃ d ∈ part, ∃ e, d.fault? (m.value? supplied) = some e ∧
          m.compile supplied base? = .error e := by
  obtain ⟨params, hparams⟩ := exists_resolveParams_iff.2 hc
  have hnone : m.firstDependencyError? = none := by
    rcases m.firstDependencyError?_cases with ⟨hnone, -⟩ | ⟨d, hd, -⟩
    · exact hnone
    · exact absurd hs hd.not_forall
  have hneeds := needs_planTargets (m.base base?) m.targets.entries
  have hcompile : m.compile supplied base? =
      (planTargets params (m.base base?) m.targets.entries).map fun targets =>
        ⟨Listing.ofList targets⟩ := by
    rw [compile_eq, hparams]
    simp only [hnone]
  rw [hcompile]
  unfold Fulfilled
  rw [← get?_of_resolveParams hparams]
  cases ht : planTargets params (m.base base?) m.targets.entries with
  | ok targets => exact .inl ⟨⟨_, rfl⟩, hneeds.met ht⟩
  | error e =>
    obtain ⟨part, hfirst, d, hd, hfault⟩ := hneeds.fails ht
    exact .inr ⟨part, hfirst, d, hd, e, hfault, rfl⟩

/-- Without values for all parameters a manifest fails to compile for the first that has none. -/
theorem compile_of_first_parameter {q : String × Parameter}
    (h : First supplied.Gives m.parameters.entries q) :
    m.compile supplied base? = .error (.missingParameter q.1) := by
  rw [compile_eq, resolveParams_eq_error_iff.2 ⟨q, h, rfl⟩]

/-- With values for all parameters a manifest fails to compile for its first wrong dependency. -/
theorem compile_of_first_dependency (hc : m.Complete supplied) {d : String × String}
    (h : First m.Sound m.dependencyPairs d) :
    m.compile supplied base? = .error (dependencyFault d) := by
  obtain ⟨params, hparams⟩ := exists_resolveParams_iff.2 hc
  rw [compile_eq, hparams]
  rcases m.firstDependencyError?_cases with ⟨-, hall⟩ | ⟨d', hd', he⟩
  · exact absurd hall h.not_forall
  · rw [he, h.unique hd']

/-- When compilation succeeds, and what it fails for. A manifest compiles exactly if every parameter
has a value, every dependency is sound, and every demand on a template is met. An error is that of
the first parameter without a value; if there is none, that of the first dependency that is not
sound; and if there is none either, that of a demand in the first block name or operation with one
that is not met. A plan is never made in part: it is the one that corresponds to the manifest, with
the dependencies of every target and the steps of all operations of its blocks. -/
theorem compile_precedence (m : Manifest) (supplied : Params) (base? : Option String) :
    ((∃ p, m.compile supplied base? = .ok p) ↔
      m.Complete supplied ∧ m.Consistent ∧ m.Fulfilled supplied) ∧
    (∀ e, m.compile supplied base? = .error e →
      (∃ q, First supplied.Gives m.parameters.entries q ∧ e = .missingParameter q.1) ∨
      (m.Complete supplied ∧ ∃ d, First m.Sound m.dependencyPairs d ∧ e = dependencyFault d) ∨
      (m.Complete supplied ∧ m.Consistent ∧
        ∃ part, First (Met (m.value? supplied)) m.parts part ∧
          ∃ d ∈ part, d.fault? (m.value? supplied) = some e)) ∧
    ∀ p, m.compile supplied base? = .ok p →
      ∀ q, m.Corresponds (m.value? supplied) (m.base base?) q ↔ q = p := by
  refine ⟨?_, ?_, fun p hp q => corresponds_iff_of_compile hp⟩
  · -- each of the three conditions, where it does not hold, comes with an error
    constructor
    · rintro ⟨p, hp⟩
      rcases First.forall_or_exists supplied.Gives m.parameters.entries with hc | ⟨q, hq⟩
      · rcases First.forall_or_exists m.Sound m.dependencyPairs with hs | ⟨d, hd⟩
        · rcases compile_of_complete base? hc hs with ⟨-, hf⟩ | ⟨_, _, _, _, e, _, he⟩
          · exact ⟨hc, hs, hf⟩
          · cases hp.symm.trans he
        · cases hp.symm.trans (compile_of_first_dependency hc hd)
      · cases hp.symm.trans (compile_of_first_parameter hq)
    · rintro ⟨hc, hs, hf⟩
      rcases compile_of_complete base? hc hs with ⟨hok, -⟩ | ⟨part, hfirst, -⟩
      · exact hok
      · exact absurd hf hfirst.not_forall
  · intro e he
    rcases First.forall_or_exists supplied.Gives m.parameters.entries with hc | ⟨q, hq⟩
    · rcases First.forall_or_exists m.Sound m.dependencyPairs with hs | ⟨d, hd⟩
      · rcases compile_of_complete base? hc hs with
          ⟨⟨p, hp⟩, -⟩ | ⟨part, hfirst, d, hd, e', hfault, he'⟩
        · cases he.symm.trans hp
        · cases he.symm.trans he'
          exact .inr (.inr ⟨hc, hs, part, hfirst, d, hd, hfault⟩)
      · cases he.symm.trans (compile_of_first_dependency hc hd)
        exact .inr (.inl ⟨hc, d, hd, rfl⟩)
    · cases he.symm.trans (compile_of_first_parameter hq)
      exact .inl ⟨q, hq, rfl⟩

end Manifest

end Rollout
