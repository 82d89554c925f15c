import Mathlib.Data.Fintype.Card
import Mathlib.Data.Set.Finite.Basic
import Mathlib.Order.WellFounded
import Rollout.Plan.Order
import Rollout.Proofs.Plan.Dependencies

/-!
# The order of execution is topological

`Sorting.Valid` says what holds of the ordering of some targets at every point: which targets came,
may come and wait, that a waiting target counts its dependencies that have not come, and that those
that came stand after their dependencies. A step keeps it (`Sorting.Valid.step`), so it holds at the
end (`Sorting.Valid.sort`). If nothing waits then, the targets stand in a topological order;
otherwise every waiting target depends on a waiting one, and among finitely many targets that makes
a circle (`exists_cycle`). `order_eq_ok_iff` puts the two together.
-/

namespace Rollout.Plan

/-- A target of a list depends on another one of it. -/
def Among (p : Plan) (members : List String) (t d : String) : Prop :=
  t ∈ members ∧ d ∈ members ∧ d ∈ p.dependencies t

/-- A list of targets each of which depends only on earlier ones, as far as it depends on targets of
the list. -/
structure Ordered (p : Plan) (l : List String) : Prop where
  nodup : l.Nodup
  forward : l.Pairwise fun a b => b ∉ p.dependencies a
  irrefl : ∀ a ∈ l, a ∉ p.dependencies a

namespace Ordered

variable {p : Plan} {l : List String}

/-- In a topological order the first target depends on no target of the order, and the rest is a
topological order. -/
theorem of_cons {name : String} {more : List String} (h : p.Ordered (name :: more)) :
    p.Ordered more ∧ ∀ d ∈ p.dependencies name, d ∉ name :: more := by
  obtain ⟨hn, hf, hi⟩ := h
  obtain ⟨hfirst, hrest⟩ := List.pairwise_cons.1 hf
  refine ⟨⟨(List.nodup_cons.1 hn).2, hrest, fun a ha => hi a (List.mem_cons_of_mem _ ha)⟩, ?_⟩
  intro d hd hm
  rcases List.mem_cons.1 hm with rfl | hm
  · exact hi d List.mem_cons_self hd
  · exact hfirst d hm hd

/-- In a topological order those dependencies of a target that stand in it stand before the
target. -/
theorem mem_before {before after : List String} {t d : String}
    (h : p.Ordered (before ++ t :: after)) (hd : d ∈ p.dependencies t)
    (hm : d ∈ before ++ t :: after) : d ∈ before := by
  have hback : p.Ordered (t :: after) :=
    ⟨(List.nodup_append.1 h.nodup).2.1, (List.pairwise_append.1 h.forward).2.1,
      fun a ha => h.irrefl a (List.mem_append_right _ ha)⟩
  exact (List.mem_append.1 hm).resolve_right (hback.of_cons.2 d hd)

/-- In a topological order a dependency stands before whatever depends on it. -/
theorem idxOf_lt (h : p.Ordered l) {t d : String} (htd : p.Among l t d) :
    l.idxOf d < l.idxOf t := by
  obtain ⟨ht, hd, hdep⟩ := htd
  have hti : l.idxOf t < l.length := List.idxOf_lt_length_of_mem ht
  have hdi : l.idxOf d < l.length := List.idxOf_lt_length_of_mem hd
  have htg : l[l.idxOf t] = t := List.getElem_idxOf hti
  have hdg : l[l.idxOf d] = d := List.getElem_idxOf hdi
  rcases Nat.lt_trichotomy (l.idxOf d) (l.idxOf t) with hlt | heq | hgt
  · exact hlt
  · -- no target depends on itself
    have : d = t := by rw [← hdg, ← htg]; simp only [heq]
    exact absurd (this ▸ hdep) (h.irrefl t ht)
  · -- no target depends on one behind it
    have := List.pairwise_iff_getElem.1 h.forward _ _ hti hdi hgt
    rw [htg, hdg] at this
    exact absurd hdep this

/-- There are no circles among the targets of a topological order. -/
theorem acyclic (h : p.Ordered l) (t : String) : ¬ Relation.TransGen (p.Among l) t t := by
  have hlt : ∀ d, Relation.TransGen (p.Among l) t d → l.idxOf d < l.idxOf t := by
    intro d hd
    induction hd with
    | single hd => exact h.idxOf_lt hd
    | tail _ hd ih => exact Nat.lt_trans (h.idxOf_lt hd) ih
  exact fun ht => Nat.lt_irrefl _ (hlt t ht)

end Ordered

/-- Finitely many targets of which each depends on one of them have a circle among them. -/
theorem exists_cycle {p : Plan} {l : List String} (hne : l ≠ [])
    (h : ∀ t ∈ l, ∃ d ∈ l, d ∈ p.dependencies t) :
    ∃ t ∈ l, Relation.TransGen (p.Among l) t t := by
  -- without a circle, to be depended on is well-founded, as the targets are finitely many
  by_contra hno
  push Not at hno
  have : Finite {n // n ∈ l} := l.finite_toSet
  have : IsTrans {n // n ∈ l} fun d t => Relation.TransGen (p.Among l) t.1 d.1 :=
    ⟨fun _ _ _ hab hbc => hbc.trans hab⟩
  have : Std.Irrefl fun d t : {n // n ∈ l} => Relation.TransGen (p.Among l) t.1 d.1 :=
    ⟨fun t => hno t.1 t.2⟩
  have hwf := Finite.wellFounded_of_trans_of_irrefl
    fun d t : {n // n ∈ l} => Relation.TransGen (p.Among l) t.1 d.1
  -- but a least target for it would depend on one of the others
  obtain ⟨t, ht⟩ := List.exists_mem_of_ne_nil l hne
  obtain ⟨⟨m, hm⟩, -, hmin⟩ := hwf.has_min Set.univ ⟨⟨t, ht⟩, trivial⟩
  obtain ⟨d, hd, hdep⟩ := h m hm
  exact hmin ⟨d, hd⟩ trivial (.single ⟨hm, hd, hdep⟩)

/-! ## The sorting -/

/-- What holds of the ordering of some targets at every point. -/
structure Sorting.Valid (p : Plan) (members : List String) (s : Sorting) : Prop where
  parts : (s.came ++ (s.ready ++ s.waiting.map Prod.fst)).Perm members
  counts : ∀ e ∈ s.waiting,
    e.2 = (p.dependencies e.1).countP fun d => d ∈ members ∧ d ∉ s.came
  waits : ∀ e ∈ s.waiting, e.2 ≠ 0
  free : ∀ name ∈ s.ready, ∀ d ∈ p.dependencies name, d ∈ members → d ∈ s.came
  closed : ∀ name ∈ s.came, ∀ d ∈ p.dependencies name, d ∈ members → d ∈ s.came
  sorted : s.came.Pairwise fun a b => a ∉ p.dependencies b
  irrefl : ∀ a ∈ s.came, a ∉ p.dependencies a

/-- When a target comes, the number of dependencies that have not come falls by as many as name
it. -/
theorem countP_come {members came : List String} {name : String} (hm : name ∈ members)
    (hc : name ∉ came) (deps : List String) :
    (deps.countP fun d => d ∈ members ∧ d ∉ name :: came) =
      (deps.countP fun d => d ∈ members ∧ d ∉ came) - deps.count name := by
  -- the two counts add up, for `name` is one of the members and has not come before
  suffices h : (deps.countP fun d => d ∈ members ∧ d ∉ name :: came) + deps.count name =
      deps.countP fun d => d ∈ members ∧ d ∉ came by omega
  induction deps with
  | nil => rfl
  | cons d r ih =>
    simp only [List.countP_cons, List.count_cons, decide_eq_true_eq, beq_iff_eq, List.mem_cons]
      at ih ⊢
    by_cases hd : d = name
    · subst hd
      simp only [hm, hc, true_or, not_true_eq_false, not_false_eq_true, and_false, and_self,
        if_true, if_false]
      omega
    · simp only [hd, false_or, if_false]
      omega

@[simp] theorem map_fst_relieve (p : Plan) (name : String) (waiting : List (String × Nat)) :
    (p.relieve name waiting).map Prod.fst = waiting.map Prod.fst := by
  simp [relieve, Function.comp_def]

/-- A target that counts its dependencies that have not come waits for nothing only if all of them
have. -/
theorem mem_of_isFree {p : Plan} {members came : List String} {e : String × Nat}
    (hc : e.2 = (p.dependencies e.1).countP fun d => d ∈ members ∧ d ∉ came)
    (hf : isFree e = true) {d : String} (hd : d ∈ p.dependencies e.1) (hm : d ∈ members) :
    d ∈ came := by
  have hzero : e.2 = 0 := by simpa [isFree] using hf
  rw [hc] at hzero
  have hnone := List.countP_eq_zero.1 hzero d hd
  rw [decide_eq_true_eq, not_and, not_not] at hnone
  exact hnone hm

namespace Sorting.Valid

variable {p : Plan} {members : List String}

/-- A ready target is one of the targets and has not come. -/
theorem ready_fresh (hn : members.Nodup) {name : String} {ready came : List String}
    {waiting : List (String × Nat)} (h : Valid p members ⟨name :: ready, came, waiting⟩) :
    name ∈ members ∧ name ∉ came := by
  have hall : (came ++ (name :: ready ++ waiting.map Prod.fst)).Nodup := h.parts.nodup_iff.2 hn
  exact ⟨h.parts.subset (by simp), fun hc =>
    (List.nodup_append.1 hall).2.2 name hc name (by simp) rfl⟩

theorem nodup_waiting (hn : members.Nodup) {s : Sorting} (h : Valid p members s) :
    (s.waiting.map Prod.fst).Nodup :=
  (List.nodup_append.1 (List.nodup_append.1 (h.parts.nodup_iff.2 hn)).2.1).2.1

/-- What came stands in a topological order. -/
theorem ordered {s : Sorting} (hn : members.Nodup) (h : Valid p members s) :
    p.Ordered s.came.reverse where
  nodup := List.nodup_reverse.2 (List.nodup_append.1 (h.parts.nodup_iff.2 hn)).1
  forward := List.pairwise_reverse.2 h.sorted
  irrefl a ha := h.irrefl a (List.mem_reverse.1 ha)

/-- The coming of a ready target keeps what holds of an ordering. -/
theorem step {name : String} {ready came : List String} {waiting : List (String × Nat)}
    (hn : members.Nodup) (h : Valid p members ⟨name :: ready, came, waiting⟩) :
    Valid p members
      ⟨ready ++ ((p.relieve name waiting).filter isFree).map Prod.fst, name :: came,
        (p.relieve name waiting).filter (!isFree ·)⟩ := by
  obtain ⟨hmem, hcame⟩ := h.ready_fresh hn
  -- whoever waits now waits for one target less, as often as it names it
  have hcounts : ∀ e ∈ p.relieve name waiting,
      e.2 = (p.dependencies e.1).countP fun d => d ∈ members ∧ d ∉ name :: came := by
    intro e he
    obtain ⟨⟨n, c⟩, hw, rfl⟩ := List.mem_map.1 he
    have hc : c = _ := h.counts _ hw
    rw [countP_come hmem hcame, ← hc]
  refine ⟨?_, ?_, ?_, ?_, ?_, ?_, ?_⟩
  · -- the targets are the same, only their parts change
    have hsplit : (((p.relieve name waiting).filter isFree).map Prod.fst ++
        ((p.relieve name waiting).filter (!isFree ·)).map Prod.fst).Perm
          (waiting.map Prod.fst) := by
      rw [← List.map_append, ← map_fst_relieve p name waiting]
      exact (List.filter_append_perm isFree _).map _
    have hmid : (came ++ (name :: ready ++ waiting.map Prod.fst)).Perm
        (name :: (came ++ (ready ++ waiting.map Prod.fst))) := List.perm_middle
    refine .trans ?_ (hmid.symm.trans h.parts)
    simp only [List.cons_append, List.append_assoc]
    exact (((hsplit.append_left ready).append_left came)).cons name
  · exact fun e he => hcounts e (List.mem_of_mem_filter he)
  · intro e he
    have := (List.mem_filter.1 he).2
    simpa [isFree] using this
  · intro n hn' d hd hdm
    rcases List.mem_append.1 hn' with hn' | hn'
    · exact List.mem_cons_of_mem _ (h.free n (List.mem_cons_of_mem _ hn') d hd hdm)
    · obtain ⟨e, he, rfl⟩ := List.mem_map.1 hn'
      obtain ⟨he, hfree⟩ := List.mem_filter.1 he
      exact mem_of_isFree (hcounts e he) hfree hd hdm
  · -- the newcomer was ready, so its dependencies have come
    intro a ha d hd hdm
    rcases List.mem_cons.1 ha with rfl | ha
    · exact List.mem_cons_of_mem _ (h.free a List.mem_cons_self d hd hdm)
    · exact List.mem_cons_of_mem _ (h.closed a ha d hd hdm)
  · -- nothing that came before depends on the newcomer, or the newcomer would have come
    exact List.pairwise_cons.2 ⟨fun b hb hdep => hcame (h.closed b hb name hdep hmem), h.sorted⟩
  · intro a ha
    rcases List.mem_cons.1 ha with rfl | ha
    · exact fun hdep => hcame (h.free a List.mem_cons_self a hdep hmem)
    · exact h.irrefl a ha

/-- What holds of an ordering at a point holds of it at its end, where nothing is ready. -/
theorem sort {s : Sorting} (hn : members.Nodup) (h : Valid p members s) :
    Valid p members (p.sort s) ∧ (p.sort s).ready = [] := by
  fun_induction Plan.sort p s with
  | case1 => exact ⟨h, rfl⟩
  | case2 name ready came waiting relieved ih => exact ih (h.step hn)

/-- At the start the targets without dependencies among the others are ready. -/
theorem sortingOf (p : Plan) (members : List String) :
    Valid p members (p.sortingOf members) := by
  have hcounted : ∀ e ∈ members.map fun n => (n, p.dependenciesAmong members n),
      e.2 = (p.dependencies e.1).countP fun d => d ∈ members ∧ d ∉ ([] : List String) := by
    intro e he
    obtain ⟨n, -, rfl⟩ := List.mem_map.1 he
    simp [dependenciesAmong]
  refine ⟨?_, ?_, ?_, ?_, by simp [Plan.sortingOf], by simp [Plan.sortingOf],
    by simp [Plan.sortingOf]⟩
  · simp only [Plan.sortingOf, List.nil_append]
    rw [← List.map_append]
    refine ((List.filter_append_perm isFree _).map _).trans ?_
    simp [Function.comp_def]
  · exact fun e he => hcounted e (List.mem_of_mem_filter he)
  · intro e he
    simpa [isFree] using (List.mem_filter.1 he).2
  · intro name hname d hd hdm
    obtain ⟨e, he, rfl⟩ := List.mem_map.1 hname
    obtain ⟨he, hfree⟩ := List.mem_filter.1 he
    exact mem_of_isFree (hcounted e he) hfree hd hdm

/-- At the end every target that still waits depends on one that waits too. -/
theorem waiting_of_waiting {s : Sorting} (h : Valid p members s) (hr : s.ready = [])
    {t : String} (ht : t ∈ s.waiting.map Prod.fst) :
    ∃ d ∈ s.waiting.map Prod.fst, d ∈ p.dependencies t := by
  obtain ⟨e, he, rfl⟩ := List.mem_map.1 ht
  -- what it counts is not zero, so some dependency has not come, and nothing is ready
  have hpos : 0 < (p.dependencies e.1).countP fun d => d ∈ members ∧ d ∉ s.came := by
    rw [← h.counts e he]
    exact Nat.pos_of_ne_zero (h.waits e he)
  obtain ⟨d, hd, hleft⟩ := List.countP_pos_iff.1 hpos
  obtain ⟨hdm, hdc⟩ := of_decide_eq_true hleft
  have := h.parts.symm.subset hdm
  simp only [hr, List.nil_append, List.mem_append] at this
  exact ⟨d, this.resolve_left hdc, hd⟩

end Sorting.Valid

/-- A chain of dependencies among the targets of a list is one among those of a larger list. -/
theorem chain_mono {p : Plan} {l l' : List String} (h : l ⊆ l') {t d : String}
    (htd : Relation.TransGen (p.Among l) t d) : Relation.TransGen (p.Among l') t d := by
  have hle : p.Among l ≤ p.Among l' := fun _ _ hab => ⟨h hab.1, h hab.2.1, hab.2.2⟩
  exact Relation.TransGen.mono hle t d htd

theorem nodup_names (p : Plan) : p.names.Nodup :=
  p.targets.distinct

/-- Targets of the plan are those of its targets that are among them. -/
theorem mem_filter_names_iff {p : Plan} {selected : List String}
    (hs : ∀ name ∈ selected, p.has name = true) {name : String} :
    name ∈ p.names.filter (· ∈ selected) ↔ name ∈ selected := by
  rw [List.mem_filter, decide_eq_true_eq]
  exact and_iff_right_of_imp fun hn => (p.targets.has_iff name).1 (hs name hn)

/-- The order of execution of targets of the plan: either it lists them after their dependencies, or
there is a circle among them and it is refused. -/
theorem order_cases {p : Plan} {selected : List String}
    (hs : ∀ name ∈ selected, p.has name = true) :
    (∃ order, p.order selected = .ok order ∧
        order.Perm (p.names.filter (· ∈ selected)) ∧ p.Ordered order) ∨
      ((∃ targets, p.order selected = .error (.cycle targets)) ∧
        ∃ t ∈ selected, Relation.TransGen (p.Among selected) t t) := by
  have hfind : selected.find? (!p.has ·) = none :=
    List.find?_eq_none.2 fun n hn => by simp [hs n hn]
  -- the sorting ends with nothing ready; what matters is whether something still waits
  generalize hm : p.names.filter (· ∈ selected) = members
  have hn : members.Nodup := hm ▸ p.targets.distinct.filter _
  obtain ⟨hv, hr⟩ := (Sorting.Valid.sortingOf p members).sort hn
  generalize hsorted : p.sort (p.sortingOf members) = sorted at hv hr
  cases hw : sorted.waiting.map Prod.fst with
  | nil =>
    left
    have hperm : sorted.came.Perm members := by simpa [hr, hw] using hv.parts
    have hok : p.order selected = .ok sorted.came.reverse := by
      simp [order, hfind, hm, hsorted, hw]
    exact ⟨sorted.came.reverse, hok, (List.reverse_perm _).trans hperm, hv.ordered hn⟩
  | cons first more =>
    right
    have hne : sorted.waiting.map Prod.fst ≠ [] := by simp [hw]
    obtain ⟨t, ht, hcycle⟩ := exists_cycle hne fun t ht => hv.waiting_of_waiting hr ht
    have hsub : sorted.waiting.map Prod.fst ⊆ selected := fun n hn => by
      have : n ∈ members := hv.parts.subset (by simp [List.mem_append, hn])
      rw [← hm] at this
      simpa using (List.mem_filter.1 this).2
    refine ⟨⟨(first :: more).filter (p.isCyclic (first :: more)), ?_⟩, t, hsub ht,
      chain_mono hsub hcycle⟩
    simp [order, hfind, hm, hsorted, hw]

/-- Targets of the plan have an order of execution if and only if there is no circle among them. -/
theorem order_eq_ok_iff {p : Plan} {selected : List String}
    (hs : ∀ name ∈ selected, p.has name = true) :
    (∃ order, p.order selected = .ok order) ↔
      ∀ t, ¬ Relation.TransGen (p.Among selected) t t := by
  rcases order_cases hs with ⟨order, ho, hperm, hord⟩ | ⟨⟨targets, ho⟩, t, -, ht⟩
  · constructor
    · intro _ t ht
      have hsub : selected ⊆ order := fun n hn => hperm.symm.subset
        (List.mem_filter.2 ⟨(p.targets.has_iff n).1 (hs n hn), by simpa using hn⟩)
      exact hord.acyclic t (chain_mono hsub ht)
    · exact fun _ => ⟨order, ho⟩
  · constructor
    · rintro ⟨order, hok⟩
      rw [ho] at hok
      cases hok
    · exact fun h => absurd ht (h t)

/-- An order of execution of targets of the plan is topological and holds exactly these targets. -/
theorem ordered_of_order {p : Plan} {selected order : List String}
    (hs : ∀ name ∈ selected, p.has name = true) (ho : p.order selected = .ok order) :
    p.Ordered order ∧ ∀ name, name ∈ order ↔ name ∈ selected := by
  rcases order_cases hs with ⟨order', ho', hperm, hord⟩ | ⟨⟨targets, ho'⟩, -⟩
  · cases ho.symm.trans ho'
    exact ⟨hord, fun _ => hperm.mem_iff.trans (mem_filter_names_iff hs)⟩
  · cases ho.symm.trans ho'

/-- Targets of the plan, in any order and named any number of times, have an order of execution if
and only if no chain of dependencies among them leads from a target back to it; and the order has
each of them once and nothing else, with every dependency before the targets that name it. -/
theorem order_topological {p : Plan} {selected : List String}
    (hs : ∀ name ∈ selected, p.has name = true) :
    ((∃ order, p.order selected = .ok order) ↔
        ∀ t, ¬ Relation.TransGen (p.Among selected) t t) ∧
      ∀ order, p.order selected = .ok order →
        order.Nodup ∧ (∀ name, name ∈ order ↔ name ∈ selected) ∧
          ∀ t ∈ selected, ∀ d ∈ selected, d ∈ p.dependencies t →
            order.idxOf d < order.idxOf t := by
  refine ⟨order_eq_ok_iff hs, fun order ho => ?_⟩
  obtain ⟨hord, hmem⟩ := ordered_of_order hs ho
  exact ⟨hord.nodup, hmem, fun t ht d hd hdep =>
    hord.idxOf_lt ⟨(hmem t).2 ht, (hmem d).2 hd, hdep⟩⟩

/-- Targets in layers, declared from the top down, with dependencies that are named twice. -/
def Sample.layers : Plan :=
  ⟨.ofList
    [("top", ⟨["middle", "side", "middle"], []⟩), ("side", ⟨["ground"], []⟩),
      ("middle", ⟨["ground", "outside", "ground"], []⟩), ("ground", ⟨[], []⟩),
      ("lone", ⟨["outside"], []⟩), ("outside", ⟨["ground"], []⟩)]⟩

/-- Of the sample all targets but one are selected, one of them twice, and come after what they
depend on. -/
theorem order_topological_sample :
    (∀ name ∈ ["top", "ground", "lone", "middle", "side", "ground"],
      Sample.layers.has name = true) ∧
    Sample.layers.order ["top", "ground", "lone", "middle", "side", "ground"] =
      .ok ["ground", "lone", "side", "middle", "top"] ∧
    ["ground", "lone", "side", "middle", "top"].idxOf "middle" <
      ["ground", "lone", "side", "middle", "top"].idxOf "top" := by
  have hs : ∀ name ∈ ["top", "ground", "lone", "middle", "side", "ground"],
      Sample.layers.has name = true := by decide
  have ho : Sample.layers.order ["top", "ground", "lone", "middle", "side", "ground"] =
      .ok ["ground", "lone", "side", "middle", "top"] := by decide +kernel
  obtain ⟨-, -, hbefore⟩ := (order_topological hs).2 _ ho
  exact ⟨hs, ho, hbefore "top" (by decide) "middle" (by decide) (by decide)⟩

end Rollout.Plan
