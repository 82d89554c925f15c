import Rollout.Proofs.Plan.Selection
import Rollout.Proofs.Plan.Topology
import Rollout.Run.Execute

/-!
# What a request comes to

A request of a closed plan is refused for the first name that is no target
(`schedule_eq_error_unknown`), or for a circle among the targets that it wants
(`schedule_eq_error_cycle`), and otherwise comes to an order of execution of exactly these targets
(`schedule_eq_ok`). Every order that it comes to can be run from front to back: it is topological
and holds the dependencies of all its targets (`runnable_of_schedule`).
-/

namespace Rollout.Plan

variable {p : Plan} {requested order : List String}

/-- An order that can be run from front to back: every dependency of a target of it stands in it,
before the target. -/
structure Runnable (p : Plan) (order : List String) : Prop extends p.Ordered order where
  closed : ∀ t ∈ order, ∀ d ∈ p.dependencies t, d ∈ order

/-- A chain of dependencies that starts from a wanted target runs among wanted targets. -/
theorem chain_of_upstream {selected : List String}
    (hs : ∀ name, name ∈ selected ↔ p.Wanted requested name) {t d : String}
    (ht : p.Wanted requested t) (h : p.Upstream t d) :
    Relation.TransGen (p.Among selected) t d := by
  induction h with
  | single hd => exact .single ⟨(hs _).2 ht, (hs _).2 (ht.upstream hd), hd⟩
  | tail hu hd ih =>
    have hm := ht.of_upstream hu
    exact ih.tail ⟨(hs _).2 hm, (hs _).2 (hm.upstream hd), hd⟩

/-- A chain of dependencies among some targets is a chain of dependencies. -/
theorem upstream_of_chain {selected : List String} {t d : String}
    (h : Relation.TransGen (p.Among selected) t d) : p.Upstream t d := by
  have hle : p.Among selected ≤ fun t d => d ∈ p.dependencies t := fun _ _ hab => hab.2.2
  exact Relation.TransGen.mono hle t d h

/-- A request with a name that is no target is refused for the first such name. -/
theorem schedule_eq_error_unknown {name : String}
    (h : requested.find? (!p.has ·) = some name) :
    p.schedule requested = .error (.unknownTarget name) := by
  rw [schedule, select_eq_error h]
  rfl

/-- A request for targets of a closed plan comes to the order of the targets that it wants. -/
theorem schedule_eq_order (hp : p.Closed) (hr : ∀ name ∈ requested, p.has name = true) :
    ∃ selected, p.schedule requested = p.order selected ∧
      (∀ name, name ∈ selected ↔ p.Wanted requested name) ∧
      ∀ name ∈ selected, p.has name = true := by
  obtain ⟨selected, hsel, -, hmem⟩ := select_eq_ok hp hr
  refine ⟨selected, ?_, hmem, fun n hn => ((hmem n).1 hn).has hp hr⟩
  rw [schedule, hsel]
  rfl

/-- A request is for targets only if it is not refused for a name. -/
theorem has_of_schedule (h : p.schedule requested = .ok order) :
    ∀ name ∈ requested, p.has name = true := by
  cases hf : requested.find? (!p.has ·) with
  | some name =>
    rw [schedule_eq_error_unknown hf] at h
    cases h
  | none => simpa using List.find?_eq_none.1 hf

/-- A request of a closed plan is not refused for a dependency that is no target. -/
theorem schedule_ne_unknownDependency (hp : p.Closed) {t d : String} :
    p.schedule requested ≠ .error (.unknownDependency t d) := by
  cases hf : requested.find? (!p.has ·) with
  | some name =>
    rw [schedule_eq_error_unknown hf]
    simp
  | none =>
    have hr : ∀ name ∈ requested, p.has name = true := by
      simpa using List.find?_eq_none.1 hf
    obtain ⟨selected, hs, -, hhas⟩ := schedule_eq_order hp hr
    rcases order_cases hhas with ⟨order, ho, -, -⟩ | ⟨⟨targets, ho⟩, -⟩
    · simp [hs, ho]
    · simp [hs, ho]

/-- A request for targets is refused if there is a circle among the targets that it wants. -/
theorem schedule_eq_error_cycle (hp : p.Closed) (hr : ∀ name ∈ requested, p.has name = true)
    {t : String} (ht : p.Wanted requested t) (hc : p.Upstream t t) :
    ∃ targets, p.schedule requested = .error (.cycle targets) := by
  obtain ⟨selected, hs, hmem, hhas⟩ := schedule_eq_order hp hr
  rcases order_cases hhas with ⟨order, ho, -, -⟩ | ⟨⟨targets, ho⟩, -⟩
  · exact absurd (chain_of_upstream hmem ht hc) ((order_eq_ok_iff hhas).1 ⟨order, ho⟩ t)
  · exact ⟨targets, hs.trans ho⟩

/-- A request for targets has an order of execution if there is no circle among the targets that it
wants. -/
theorem schedule_eq_ok (hp : p.Closed) (hr : ∀ name ∈ requested, p.has name = true)
    (hc : ∀ t, p.Wanted requested t → ¬ p.Upstream t t) :
    ∃ order, p.schedule requested = .ok order := by
  obtain ⟨selected, hs, hmem, hhas⟩ := schedule_eq_order hp hr
  rcases order_cases hhas with ⟨order, ho, -, -⟩ | ⟨-, t, ht, hcycle⟩
  · exact ⟨order, hs.trans ho⟩
  · exact absurd (upstream_of_chain hcycle) (hc t ((hmem t).1 ht))

/-- Whatever a request of a closed plan comes to can be run and holds exactly what is wanted. -/
theorem runnable_of_schedule (hp : p.Closed) (h : p.schedule requested = .ok order) :
    p.Runnable order ∧ ∀ name, name ∈ order ↔ p.Wanted requested name := by
  have hr := has_of_schedule h
  obtain ⟨selected, hs, hmem, hhas⟩ := schedule_eq_order hp hr
  rcases order_cases hhas with ⟨order', ho', hperm, hord⟩ | ⟨⟨targets, ho'⟩, -⟩
  · cases h.symm.trans (hs.trans ho')
    have hwant : ∀ name, name ∈ order ↔ p.Wanted requested name := fun n => by
      rw [hperm.mem_iff, List.mem_filter, decide_eq_true_eq, hmem]
      exact ⟨And.right, fun hw => ⟨(p.has_iff n).1 (hw.has hp hr), hw⟩⟩
    exact ⟨⟨hord, fun t ht d hd => (hwant d).2 (((hwant t).1 ht).upstream hd)⟩, hwant⟩
  · cases h.symm.trans (hs.trans ho')

/-- Whatever a request comes to is a topological order, be the plan closed or not. -/
theorem ordered_of_schedule (h : p.schedule requested = .ok order) : p.Ordered order := by
  obtain ⟨selected, -, ho⟩ := ok_of_bind h
  -- an order is refused for a name that is no target
  have hhas : ∀ name ∈ selected, p.has name = true := by
    cases hf : selected.find? (!p.has ·) with
    | none => simpa using List.find?_eq_none.1 hf
    | some name => simp [Plan.order, hf] at ho
  rcases order_cases hhas with ⟨order', ho', -, hord⟩ | ⟨⟨targets, ho'⟩, -⟩
  · cases ho.symm.trans ho'
    exact hord
  · cases ho.symm.trans ho'

/-- There is no circle among the targets that a request wants if it has an order of execution. -/
theorem acyclic_of_schedule (hp : p.Closed) (h : p.schedule requested = .ok order) :
    ∀ t, p.Wanted requested t → ¬ p.Upstream t t := by
  obtain ⟨ho, hmem⟩ := runnable_of_schedule hp h
  exact fun t ht hc => ho.acyclic t (chain_of_upstream hmem ht hc)

namespace Runnable

/-- A property of targets holds of a whole order if it holds of a target whenever it holds of its
dependencies. -/
theorem induction (h : p.Runnable order) {P : String → Prop}
    (hstep : ∀ t ∈ order, (∀ d ∈ p.dependencies t, P d) → P t) : ∀ t ∈ order, P t := by
  intro t ht
  -- on the place of the target in the order, where its dependencies stand before it
  induction hk : order.idxOf t using Nat.strong_induction_on generalizing t with
  | _ k ih =>
    apply hstep t ht
    intro d hd
    have hmem : d ∈ order := h.closed t ht d hd
    have hlt : order.idxOf d < k := hk ▸ h.toOrdered.idxOf_lt ⟨ht, hmem, hd⟩
    exact ih _ hlt d hmem rfl

/-- The dependencies of a target of an order stand before it. -/
theorem mem_before {before after : List String} {t d : String}
    (h : p.Runnable (before ++ t :: after)) (hd : d ∈ p.dependencies t) : d ∈ before :=
  h.toOrdered.mem_before hd (h.closed t (by simp) d hd)

end Runnable

end Rollout.Plan
