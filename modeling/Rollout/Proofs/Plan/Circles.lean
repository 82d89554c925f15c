import Rollout.Proofs.Plan.Selection
import Rollout.Proofs.Plan.Topology

/-!
# The targets on circles

Where the ordering of targets stops with some of them waiting, the circles among them are to blame,
and `order_eq_error_cycle` says that exactly the targets on circles are named. No circle runs
through a target that came (`Sorting.Valid.mem_waiting_of_cycle`), so the circles among the targets
are the circles among those that wait; and what a search finds from the dependencies of a waiting
target are the ends of the chains that start from it (`reached_iff_chain`).
-/

namespace Rollout.Plan

open Relation (TransGen)

variable {p : Plan} {members stuck : List String}

/-- What can be reached within some nodes from the neighbours of one of them are the ends of the
chains that start from it. -/
theorem reached_iff_chain {nodes : List String} {next : String → List String}
    {r : String → String → Prop} (hr : ∀ a b, r a b ↔ a ∈ nodes ∧ b ∈ nodes ∧ b ∈ next a)
    {t d : String} (ht : t ∈ nodes) : Reached nodes next (next t) d ↔ TransGen r t d := by
  constructor
  · intro h
    induction h with
    | start h hn => exact .single ((hr _ _).2 ⟨ht, hn, h⟩)
    | next _ ho hn ih =>
      -- the node before is the end of a chain, so it is one of the nodes
      obtain ⟨_, -, hlast⟩ := Relation.TransGen.tail'_iff.1 ih
      exact ih.tail ((hr _ _).2 ⟨((hr _ _).1 hlast).2.1, hn, ho⟩)
  · intro h
    induction h with
    | single h => exact .start ((hr _ _).1 h).2.2 ((hr _ _).1 h).2.1
    | tail _ h ih => exact .next ih ((hr _ _).1 h).2.2 ((hr _ _).1 h).2.1

/-- A target of some is found to be on a circle if and only if a chain among them leads from it back
to it. -/
theorem isCyclic_iff {t : String} (ht : t ∈ stuck) :
    p.isCyclic stuck t = true ↔ TransGen (p.Among stuck) t t := by
  rw [isCyclic, decide_eq_true_eq, mem_reach_iff]
  exact reached_iff_chain (fun _ _ => Iff.rfl) ht

/-- If all targets on circles are among some targets, then the circles are circles among these. -/
theorem chain_of_cycles (h : ∀ t, TransGen (p.Among members) t t → t ∈ stuck) {t d : String}
    (htd : TransGen (p.Among members) t d) (hdt : TransGen (p.Among members) d t) :
    TransGen (p.Among stuck) t d := by
  have ht : t ∈ stuck := h t (htd.trans hdt)
  induction htd with
  | single hab => exact .single ⟨ht, h _ (hdt.tail hab), hab.2.2⟩
  | tail htb hab ih =>
    -- the target before the last is on the same circle
    have hbt := hdt.head hab
    exact (ih hbt).tail ⟨h _ (hbt.trans htb), h _ (hdt.trans (htb.tail hab)), hab.2.2⟩

namespace Sorting.Valid

/-- A chain that starts from a target that came runs among the targets that came. -/
theorem chain_came {s : Sorting} (h : Valid p members s) {t d : String} (ht : t ∈ s.came)
    (htd : TransGen (p.Among members) t d) : d ∈ s.came ∧ TransGen (p.Among s.came) t d := by
  induction htd with
  | single hab =>
    have hb := h.closed t ht _ hab.2.2 hab.2.1
    exact ⟨hb, .single ⟨ht, hb, hab.2.2⟩⟩
  | tail _ hab ih =>
    have hb := h.closed _ ih.1 _ hab.2.2 hab.2.1
    exact ⟨hb, ih.2.tail ⟨ih.1, hb, hab.2.2⟩⟩

/-- When nothing is ready, every target on a circle is still waiting. -/
theorem mem_waiting_of_cycle {s : Sorting} (hn : members.Nodup) (h : Valid p members s)
    (hr : s.ready = []) {t : String} (ht : TransGen (p.Among members) t t) :
    t ∈ s.waiting.map Prod.fst := by
  obtain ⟨_, hfirst, -⟩ := Relation.TransGen.head'_iff.1 ht
  have hparts : t ∈ s.came ++ (s.ready ++ s.waiting.map Prod.fst) := h.parts.symm.subset hfirst.1
  rw [hr, List.nil_append] at hparts
  refine (List.mem_append.1 hparts).resolve_left fun hc => ?_
  -- otherwise the circle would run among the targets that came, which are ordered
  refine (h.ordered hn).acyclic t (chain_mono (fun n hn => ?_) (h.chain_came hc ht).2)
  exact List.mem_reverse.2 hn

/-- When nothing is ready, the waiting targets on circles among themselves are the targets on
circles. -/
theorem mem_filter_isCyclic_iff {s : Sorting} (hn : members.Nodup) (h : Valid p members s)
    (hr : s.ready = []) {t : String} :
    t ∈ (s.waiting.map Prod.fst).filter (p.isCyclic (s.waiting.map Prod.fst)) ↔
      TransGen (p.Among members) t t := by
  rw [List.mem_filter]
  constructor
  · rintro ⟨ht, hc⟩
    have hsub : s.waiting.map Prod.fst ⊆ members := fun n hn =>
      h.parts.subset (List.mem_append_right _ (List.mem_append_right _ hn))
    exact chain_mono hsub ((isCyclic_iff ht).1 hc)
  · intro hc
    have ht := h.mem_waiting_of_cycle hn hr hc
    exact ⟨ht, (isCyclic_iff ht).2
      (chain_of_cycles (fun _ hx => h.mem_waiting_of_cycle hn hr hx) hc hc)⟩

end Sorting.Valid

/-- Waiting targets keep their order until they come. -/
theorem sublist_waiting_sort (s : Sorting) :
    ((p.sort s).waiting.map Prod.fst).Sublist (s.waiting.map Prod.fst) := by
  fun_induction Plan.sort p s with
  | case1 => exact .refl _
  | case2 name ready came waiting relieved ih =>
    have hstep : (relieved.map Prod.fst).Sublist (waiting.map Prod.fst) := by
      simp [relieved]
    exact (ih.trans (List.filter_sublist.map _)).trans hstep

/-- Some of the targets, each with a count, stand in the order of the targets. -/
theorem sublist_counted (p : Plan) (members : List String) (f : String × Nat → Bool) :
    (((members.map fun n => (n, p.dependenciesAmong members n)).filter f).map
      Prod.fst).Sublist members := by
  have hall : (members.map fun n => (n, p.dependenciesAmong members n)).map Prod.fst = members := by
    simp [Function.comp_def]
  have hsome := (List.filter_sublist (p := f)
    (l := members.map fun n => (n, p.dependenciesAmong members n))).map Prod.fst
  rwa [hall] at hsome

/-- Targets in the order of the plan have increasing places in it. -/
theorem pairwise_place {l : List String} (h : l.Sublist p.names) :
    l.Pairwise fun a b => p.names.idxOf a < p.names.idxOf b := by
  refine .sublist h (List.pairwise_iff_getElem.2 fun i j hi hj hij => ?_)
  rw [p.nodup_names.idxOf_getElem i hi, p.nodup_names.idxOf_getElem j hj]
  exact hij

/-- The order of targets of the plan, by what their ordering ends with. -/
theorem order_of_has {selected : List String} (hs : ∀ name ∈ selected, p.has name = true)
    {s : Sorting} (he : p.sort (p.sortingOf (p.names.filter (· ∈ selected))) = s) :
    p.order selected =
      if s.waiting.map Prod.fst = [] then .ok s.came.reverse
      else .error
        (.cycle ((s.waiting.map Prod.fst).filter (p.isCyclic (s.waiting.map Prod.fst)))) := by
  have hfind : selected.find? (!p.has ·) = none :=
    List.find?_eq_none.2 fun n hn => by simp [hs n hn]
  simp only [order, hfind, he, List.isEmpty_iff]

/-- Targets of the plan with a circle among them are refused, and named are the targets that can
reach themselves through one or more dependencies among them, each once and in the order of the
plan. -/
theorem order_eq_error_cycle {selected : List String}
    (hs : ∀ name ∈ selected, p.has name = true)
    (hc : ∃ t, TransGen (p.Among selected) t t) :
    ∃ targets, p.order selected = .error (.cycle targets) ∧ targets ≠ [] ∧
      (targets.Pairwise fun a b => p.names.idxOf a < p.names.idxOf b) ∧
      ∀ t, t ∈ targets ↔ TransGen (p.Among selected) t t := by
  have hmem : ∀ n, n ∈ p.names.filter (· ∈ selected) ↔ n ∈ selected := fun _ =>
    mem_filter_names_iff hs
  have hn : (p.names.filter (· ∈ selected)).Nodup := p.nodup_names.filter _
  obtain ⟨hv, hr⟩ := (Sorting.Valid.sortingOf p (p.names.filter (· ∈ selected))).sort hn
  generalize hsorted : p.sort (p.sortingOf (p.names.filter (· ∈ selected))) = s at hv hr
  -- the waiting targets on circles, which the refusal names
  have hcycles : ∀ t, t ∈ (s.waiting.map Prod.fst).filter (p.isCyclic (s.waiting.map Prod.fst)) ↔
      TransGen (p.Among selected) t t := fun t =>
    (hv.mem_filter_isCyclic_iff hn hr).trans
      ⟨chain_mono fun n => (hmem n).1, chain_mono fun n => (hmem n).2⟩
  obtain ⟨t, ht⟩ := hc
  have hwaits := List.mem_of_mem_filter ((hcycles t).2 ht)
  have hsub : (s.waiting.map Prod.fst).Sublist p.names :=
    ((hsorted ▸ sublist_waiting_sort _).trans (sublist_counted p _ _)).trans List.filter_sublist
  refine ⟨_, (order_of_has hs hsorted).trans (if_neg (List.ne_nil_of_mem hwaits)),
    List.ne_nil_of_mem ((hcycles t).2 ht), pairwise_place (List.filter_sublist.trans hsub),
    hcycles⟩

/-- Two circles with a target between them, and targets that depend on circles or that circles
depend on. -/
def Sample.rings : Plan :=
  ⟨.ofList
    [("base", ⟨[], []⟩), ("left", ⟨["right", "base"], []⟩), ("right", ⟨["left"], []⟩),
      ("bridge", ⟨["right", "base", "right"], []⟩), ("self", ⟨["bridge", "self"], []⟩),
      ("leaf", ⟨["self"], []⟩)]⟩

/-- Of the sample the targets on its two circles are named, and no others. -/
theorem order_eq_error_cycle_sample :
    (∀ name ∈ ["leaf", "right", "self", "bridge", "left", "base", "self"],
      Sample.rings.has name = true) ∧
    Sample.rings.order ["leaf", "right", "self", "bridge", "left", "base", "self"] =
      .error (.cycle ["left", "right", "self"]) ∧
    ∀ t, t ∈ ["left", "right", "self"] ↔
      TransGen
        (Sample.rings.Among ["leaf", "right", "self", "bridge", "left", "base", "self"]) t t := by
  have hs : ∀ name ∈ ["leaf", "right", "self", "bridge", "left", "base", "self"],
      Sample.rings.has name = true := by decide
  have ho : Sample.rings.order ["leaf", "right", "self", "bridge", "left", "base", "self"] =
      .error (.cycle ["left", "right", "self"]) := by cbv
  have hc : TransGen
      (Sample.rings.Among ["leaf", "right", "self", "bridge", "left", "base", "self"])
      "self" "self" := .single ⟨by decide, by decide, by decide⟩
  obtain ⟨targets, ht, -, -, hmem⟩ := order_eq_error_cycle hs ⟨_, hc⟩
  cases ho.symm.trans ht
  exact ⟨hs, ho, hmem⟩

end Rollout.Plan
