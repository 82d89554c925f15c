import Mathlib.Data.List.Dedup
import Rollout.Proofs.Plan.Turns

/-!
# Ordering by counts

The order of execution found by counts: every selected target counts the selected dependencies that
have not come, and whenever a target comes, the targets that name it count down, each as often as it
names it. Selections, counts and leftovers have no order of their own here, and are gone through in
any order (`Shuffles`); what becomes ready at once is put in the order of the plan.

A count is never lowered below zero, and the counts, the queue and the targets that came keep in
step with the ordering of the targets (`Counting.Tracks.step`). So whatever order the collections
are gone through in, the order of execution comes out, or the targets on circles
(`orderShuffled_eq`).
-/

namespace Rollout.Plan

open Relation (TransGen)

/-- An order in which names that have no order of their own are gone through. -/
structure Shuffle where
  apply : List String → List String
  perm : ∀ l, (apply l).Perm l

/-- The orders in which the selected targets are gone through for their dependencies and then for
their counts, and in which those that are left are gone through for circles. -/
structure Shuffles where
  edges : Shuffle
  counts : Shuffle
  left : Shuffle

/-- The dependencies among some targets, each with the target that names it. -/
def edges (p : Plan) (members : List String) : List (String × String) :=
  members.flatMap fun t => ((p.dependencies t).filter (· ∈ members)).map fun d => (d, t)

/-- The targets that name a dependency, each as often as it names it. -/
def dependents (edges : List (String × String)) (d : String) : List String :=
  (edges.filter (·.1 = d)).map Prod.snd

/-- The number of dependencies that a target names. -/
def degree (edges : List (String × String)) (t : String) : Nat :=
  edges.countP (·.2 = t)

/-- Names in the order of the plan. -/
def placed (p : Plan) (names : List String) : List String :=
  names.mergeSort fun a b => p.names.idxOf a ≤ p.names.idxOf b

/-- Counts names down, each by one as often as it stands there: the names whose count comes to zero,
and the counts. A count of zero cannot be lowered. -/
def lower : List String → Listing Nat → Option (List String × Listing Nat)
  | [], counts => some ([], counts)
  | n :: more, counts =>
    match counts.get? n with
    | none => lower more counts
    | some 0 => none
    | some (c + 1) =>
      (lower more (counts.put n c)).map fun (freed, counts) =>
        (if c = 0 then n :: freed else freed, counts)

/-- Targets in the course of being ordered by counts: the queue, those that came, the latest first,
and the counts. -/
structure Counting where
  queue : List String
  came : List String
  counts : Listing Nat

/-- All counts taken together. -/
def total (counts : Listing Nat) : Nat :=
  counts.entries.foldr (fun e n => e.2 + n) 0

theorem total_put {counts : Listing Nat} {name : String} {c : Nat}
    (h : counts.get? name = some (c + 1)) : total (counts.put name c) + 1 = total counts := by
  have key (l : List (String × Nat)) (hl : lookPair name l = some (c + 1)) :
      (putPair name c l).foldr (fun e n => e.2 + n) 0 + 1 = l.foldr (fun e n => e.2 + n) 0 := by
    induction l with
    | nil => cases hl
    | cons e r ih =>
      obtain ⟨n, k⟩ := e
      by_cases hn : n = name
      · simp only [lookPair, hn, if_true, Option.some.injEq] at hl
        simp only [putPair, hn, if_true, List.foldr_cons, hl]
        omega
      · simp only [lookPair, hn, if_false] at hl
        have := ih hl
        simp only [putPair, hn, if_false, List.foldr_cons]
        omega
  exact key counts.entries h

/-- Whatever becomes ready by counting down is paid for by the counts. -/
theorem total_of_lower {names freed : List String} {counts counts' : Listing Nat}
    (h : lower names counts = some (freed, counts')) :
    freed.length + total counts' ≤ total counts := by
  fun_induction lower names counts generalizing freed counts' with
  | case1 counts => cases h; simp
  | case2 n more counts hn ih => exact ih h
  | case3 => cases h
  | case4 n more counts c hn ih =>
    obtain ⟨⟨f, k⟩, hf, heq⟩ := Option.map_eq_some_iff.1 h
    obtain ⟨rfl, rfl⟩ := Prod.mk.inj heq
    have htotal := total_put hn
    have hrest := ih hf
    split
    · simp only [List.length_cons]
      omega
    · omega

/-- Lets the targets in the queue come, one after the other, and at its end those that become ready
by it. -/
def drain (p : Plan) (edges : List (String × String)) (s : Counting) : Option Counting :=
  match s with
  | ⟨[], came, counts⟩ => some ⟨[], came, counts⟩
  | ⟨name :: queue, came, counts⟩ =>
    match _h : lower (dependents edges name) counts with
    | none => none
    | some (freed, counts') => drain p edges ⟨queue ++ p.placed freed, name :: came, counts'⟩
termination_by s.queue.length + total s.counts
decreasing_by
  have hpaid := total_of_lower _h
  have hlength : (p.placed freed).length = freed.length := List.length_mergeSort ..
  simp only [List.length_append, List.length_cons, hlength]
  omega

/-- The order of execution of selected targets by counts; a selected name that is no target is an
error. There is no result if a count would fall below zero. -/
def orderShuffled (p : Plan) (v : Shuffles) (selected : List String) :
    Option (Except PlanError (List String)) :=
  let members := v.edges.apply selected.dedup
  match members.find? (!p.has ·) with
  | some name => some (.error (.unknownTarget name))
  | none =>
    let edges := p.edges members
    let free := (v.counts.apply members).filter fun t => degree edges t = 0
    let counts := Listing.ofList (members.map fun t => (t, degree edges t))
    (p.drain edges ⟨p.placed free, [], counts⟩).map fun s =>
      if s.came.length = members.length then .ok s.came.reverse
      else
        let left := v.left.apply (members.filter (· ∉ s.came))
        .error (.cycle (p.placed (left.filter fun t =>
          t ∈ reach left (dependents edges) (dependents edges t))))

variable {p : Plan} {members : List String}

/-! ## Counting down -/

/-- What counting names down makes of counts: each is less by as often as its name stands there,
and those come to zero that were no more than that. -/
structure Lowered (names : List String) (counts : Listing Nat) (freed : List String)
    (counts' : Listing Nat) : Prop where
  get?_eq : ∀ n c, counts.get? n = some c → counts'.get? n = some (c - names.count n)
  nodup : freed.Nodup
  mem_freed : ∀ n, n ∈ freed ↔ n ∈ names ∧ counts.get? n = some (names.count n)

/-- Counting a name down once, in front of other names. -/
theorem Lowered.cons {m : String} {c : Nat} {more freed : List String}
    {counts counts' : Listing Nat} (hc : counts.get? m = some (c + 1)) (hle : more.count m ≤ c)
    (h : Lowered more (counts.put m c) freed counts') :
    Lowered (m :: more) counts (if c = 0 then m :: freed else freed) counts' := by
  refine ⟨fun n k hk => ?_, ?_, fun n => ?_⟩
  · by_cases hn : m = n
    · subst hn
      cases hc.symm.trans hk
      rw [h.get?_eq m c (by simp), List.count_cons_self]
      congr 1
      omega
    · rw [h.get?_eq n k (by simp [hn, hk]), List.count_cons_of_ne hn]
  · split
    · -- a count of zero was all that was to be counted
      refine List.nodup_cons.2 ⟨fun hm => ?_, h.nodup⟩
      have := List.count_pos_iff.2 ((h.mem_freed m).1 hm).1
      omega
    · exact h.nodup
  · by_cases hn : m = n
    · subst hn
      have hback : m ∈ freed ↔ m ∈ more ∧ c = more.count m := by simp [h.mem_freed]
      rw [List.count_cons_self, hc]
      split
      · simp only [List.mem_cons_self, true_and, true_iff, Option.some.injEq]
        omega
      · rw [hback]
        simp only [List.mem_cons_self, true_and, Option.some.injEq, Nat.add_right_cancel_iff]
        refine and_iff_right_of_imp fun he => List.count_pos_iff.1 ?_
        omega
    · have hback : n ∈ freed ↔ n ∈ more ∧ counts.get? n = some (more.count n) := by
        rw [h.mem_freed, Listing.get?_put, if_neg hn]
      rw [List.count_cons_of_ne hn]
      split <;> simp [hback, Ne.symm hn]

/-- Names of which each has a count that is large enough can be counted down. -/
theorem lower_eq_some {names : List String} {counts : Listing Nat}
    (h : ∀ n ∈ names, ∃ c, counts.get? n = some c ∧ names.count n ≤ c) :
    ∃ freed counts', lower names counts = some (freed, counts') ∧
      Lowered names counts freed counts' := by
  induction names generalizing counts with
  | nil => exact ⟨[], counts, rfl, by simp, List.nodup_nil, by simp⟩
  | cons m more ih =>
    -- the first name has a count of at least one, and is counted down
    obtain ⟨_ | c, hc, hle⟩ := h m List.mem_cons_self
    · simp at hle
    rw [List.count_cons_self, Nat.add_le_add_iff_right] at hle
    have hmore : ∀ n ∈ more, ∃ k, (counts.put m c).get? n = some k ∧ more.count n ≤ k := by
      intro n hn
      rw [Listing.get?_put]
      split
      · exact ⟨c, rfl, ‹m = n› ▸ hle⟩
      · obtain ⟨k, hk, hkle⟩ := h n (List.mem_cons_of_mem _ hn)
        rw [List.count_cons_of_ne ‹_›] at hkle
        exact ⟨k, hk, hkle⟩
    obtain ⟨freed, counts', hlower, hlowered⟩ := ih hmore
    exact ⟨_, counts', by simp [lower, hc, hlower], hlowered.cons hc hle⟩

/-! ## The dependencies among targets -/

/-- The dependencies that are counted for a target are those of its dependencies that are among the
targets. -/
theorem countP_edges (hn : members.Nodup) {t : String} (ht : t ∈ members) (q : String → Bool) :
    ((p.edges members).countP fun e => e.2 = t ∧ q e.1) =
      (p.dependencies t).countP fun d => d ∈ members ∧ q d := by
  -- on the targets whose dependencies are listed
  have key (l : List String) (hl : l.Nodup) :
      ((l.flatMap fun t => ((p.dependencies t).filter (· ∈ members)).map fun d => (d, t)).countP
        fun e => e.2 = t ∧ q e.1) =
        if t ∈ l then (p.dependencies t).countP fun d => d ∈ members ∧ q d else 0 := by
    induction l with
    | nil => simp
    | cons a r ih =>
      obtain ⟨ha, hr⟩ := List.nodup_cons.1 hl
      rw [List.flatMap_cons, List.countP_append, ih hr, List.countP_map, List.countP_filter]
      by_cases hat : a = t
      · subst hat
        simp [ha, and_comm]
      · simp [hat, Ne.symm hat]
  rw [edges, key members hn, if_pos ht]

theorem mem_edges_iff {d t : String} :
    (d, t) ∈ p.edges members ↔ t ∈ members ∧ d ∈ members ∧ d ∈ p.dependencies t := by
  simp [edges, and_comm, and_assoc]

theorem mem_dependents_iff {d t : String} :
    t ∈ dependents (p.edges members) d ↔ p.Among members t d := by
  simp [dependents, mem_edges_iff, Among]

theorem count_dependents (hn : members.Nodup) {d t : String} (hd : d ∈ members)
    (ht : t ∈ members) :
    (dependents (p.edges members) d).count t = (p.dependencies t).count d := by
  have hedges := countP_edges (p := p) hn ht (· == d)
  rw [dependents, List.count, List.countP_map, List.countP_filter, List.count]
  calc _ = (p.edges members).countP fun e => e.2 = t ∧ (e.1 == d) :=
        List.countP_congr (by simp)
    _ = _ := hedges
    _ = _ := List.countP_congr fun x _ => by
      simp only [decide_eq_true_eq, beq_iff_eq]
      exact and_iff_right_of_imp fun h => h ▸ hd

theorem degree_edges (hn : members.Nodup) {t : String} (ht : t ∈ members) :
    degree (p.edges members) t = p.dependenciesAmong members t := by
  have hedges := countP_edges (p := p) hn ht fun _ => true
  simpa [degree, dependenciesAmong] using hedges

/-! ## The two orderings keep in step -/

/-- Names of the plan, in whatever order, are put in the order of the plan. -/
theorem placed_eq {l names : List String} (hl : l.Sublist p.names) (h : names.Perm l) :
    p.placed names = l := by
  have hplaced : (p.placed names).Perm l := (List.mergeSort_perm _ _).trans h
  have hsorted : (p.placed names).Pairwise fun a b => decide (p.names.idxOf a ≤ p.names.idxOf b) :=
    List.pairwise_mergeSort (fun a b c hab hbc => by simp only [decide_eq_true_eq] at *; omega)
      (fun a b => by simp only [Bool.or_eq_true, decide_eq_true_eq]; omega) names
  refine hplaced.eq_of_pairwise (fun a b ha _ hab hba => ?_) (hsorted.imp of_decide_eq_true)
    ((pairwise_place hl).imp Nat.le_of_lt)
  exact (List.idxOf_inj (hl.subset (hplaced.subset ha))).1 (Nat.le_antisymm hab hba)

/-- Every target counts its dependencies among the targets that have not come. -/
def Counts (p : Plan) (members came : List String) (counts : Listing Nat) : Prop :=
  ∀ n ∈ members, counts.get? n =
    some ((p.dependencies n).countP fun d => d ∈ members ∧ d ∉ came)

variable {visited : List String}

/-- When a target comes, those that name it can be counted down; they count what has not come then,
and those come to zero that become ready. -/
theorem Counts.lower_dependents (hp : visited.Perm members) (hn : members.Nodup) {name : String}
    {ready came : List String} {waiting : List (String × Nat)}
    (hv : Sorting.Valid p members ⟨name :: ready, came, waiting⟩) {counts : Listing Nat}
    (h : Counts p members came counts) :
    ∃ freed counts', lower (dependents (p.edges visited) name) counts = some (freed, counts') ∧
      freed.Perm (((p.relieve name waiting).filter isFree).map Prod.fst) ∧
      Counts p members (name :: came) counts' := by
  obtain ⟨hname, hcame⟩ := hv.ready_fresh hn
  have hdependents : ∀ n, n ∈ dependents (p.edges visited) name ↔
      n ∈ members ∧ name ∈ p.dependencies n := fun n => by
    rw [mem_dependents_iff, Among, hp.mem_iff, hp.mem_iff]
    simp [hname]
  have hcount : ∀ n ∈ members,
      (dependents (p.edges visited) name).count n = (p.dependencies n).count name := fun n hm =>
    count_dependents (hp.nodup_iff.2 hn) (hp.mem_iff.2 hname) (hp.mem_iff.2 hm)
  have henough : ∀ n ∈ dependents (p.edges visited) name, ∃ c, counts.get? n = some c ∧
      (dependents (p.edges visited) name).count n ≤ c := fun n hd => by
    have hm := ((hdependents n).1 hd).1
    exact ⟨_, h n hm, hcount n hm ▸ count_le_countP hname hcame _⟩
  obtain ⟨freed, counts', hlower, hlowered⟩ := lower_eq_some henough
  refine ⟨freed, counts', hlower, ?_, fun n hm => ?_⟩
  · have hrelieved := (sublist_relieved p name waiting isFree).nodup (hv.nodup_waiting hn)
    refine (List.perm_ext_iff_of_nodup hlowered.nodup hrelieved).2 fun n => ?_
    rw [hlowered.mem_freed, hdependents, hv.mem_relieved_iff hn, and_assoc]
    refine and_congr_right fun hm => and_congr_right fun _ => ?_
    rw [h n hm, hcount n hm, Option.some.injEq]
  · rw [hlowered.get?_eq n _ (h n hm), hcount n hm, countP_come hname hcame]

/-- A counting keeps in step with an ordering: the same targets are in the queue and came, and every
target counts its dependencies that have not come. -/
structure Counting.Tracks (p : Plan) (members : List String) (c : Counting) (s : Sorting) :
    Prop where
  valid : Sorting.Valid p members s
  inTurn : Sorting.InTurn p members s
  queue : c.queue = s.ready
  came : c.came = s.came
  counts : Counts p members s.came c.counts

theorem Counting.Tracks.eq {c : Counting} {s : Sorting} (h : c.Tracks p members s) :
    c = ⟨s.ready, s.came, c.counts⟩ := by
  rw [← h.queue, ← h.came]

/-- When a target comes, the targets that name it can be counted down, and the two keep in step. -/
theorem Counting.Tracks.step (hp : visited.Perm members) (hn : members.Nodup) {c : Counting}
    {name : String} {ready came : List String} {waiting : List (String × Nat)}
    (h : c.Tracks p members ⟨name :: ready, came, waiting⟩) :
    ∃ freed counts', lower (dependents (p.edges visited) name) c.counts = some (freed, counts') ∧
      Tracks p members ⟨ready ++ p.placed freed, name :: came, counts'⟩
        ⟨ready ++ ((p.relieve name waiting).filter isFree).map Prod.fst, name :: came,
          (p.relieve name waiting).filter (!isFree ·)⟩ := by
  obtain ⟨hv, ht, -, -, hc⟩ := h
  obtain ⟨freed, counts', hlower, hperm, hcounts⟩ := hc.lower_dependents hp hn hv
  have hplaced := placed_eq ((sublist_relieved p name waiting isFree).trans ht.listed) hperm
  exact ⟨freed, counts', hlower, hv.step hn, ht.step hn hv, by rw [hplaced], rfl, hcounts⟩

/-- Letting targets come by counts lets the same targets come in the same order. -/
theorem Counting.Tracks.drain (hp : visited.Perm members) (hn : members.Nodup) {s : Sorting}
    {c : Counting} (h : c.Tracks p members s) :
    ∃ c', p.drain (p.edges visited) c = some c' ∧ c'.came = (p.sort s).came := by
  fun_induction Plan.sort p s generalizing c with
  | case1 came waiting =>
    rw [h.eq]
    exact ⟨_, by rw [Plan.drain], rfl⟩
  | @case2 name ready came waiting relieved ih =>
    obtain ⟨freed, counts', hlower, hstep⟩ := h.step hp hn
    obtain ⟨c', hdrain, hcame⟩ := ih hstep
    refine ⟨c', ?_, hcame⟩
    rw [h.eq, Plan.drain]
    split
    · next heq => simp [hlower] at heq
    · next heq =>
      cases hlower.symm.trans heq
      exact hdrain

/-! ## The order of execution comes out -/

/-- The number of dependencies among some targets does not hang on the order of these. -/
theorem dependenciesAmong_congr (hp : visited.Perm members) (t : String) :
    p.dependenciesAmong visited t = p.dependenciesAmong members t :=
  List.countP_congr fun d _ => by simp [hp.mem_iff]

/-- At the start every target counts its dependencies among the targets. -/
theorem counts_start (hp : visited.Perm members) (hn : members.Nodup) {counts : Listing Nat}
    (h : ∀ t ∈ visited, counts.get? t = some (degree (p.edges visited) t)) :
    Counts p members [] counts := by
  intro n hm
  have hv := hp.mem_iff.2 hm
  rw [h n hv, degree_edges (hp.nodup_iff.2 hn) hv, dependenciesAmong_congr hp]
  simp [dependenciesAmong]

/-- At the start the targets that count nothing are ready. -/
theorem perm_ready (hp : visited.Perm members) (hn : members.Nodup) {names : List String}
    (h : names.Perm visited) :
    (names.filter fun t => degree (p.edges visited) t = 0).Perm (p.sortingOf members).ready := by
  have hready : (p.sortingOf members).ready =
      members.filter fun t => degree (p.edges visited) t = 0 := by
    simp only [sortingOf, List.filter_map, List.map_map, Function.comp_def, List.map_id']
    refine List.filter_congr fun t ht => ?_
    rw [degree_edges (hp.nodup_iff.2 hn) (hp.mem_iff.2 ht), dependenciesAmong_congr hp, isFree]
    rfl
  rw [hready]
  exact (h.trans hp).filter _

/-- A search among the targets that are left, along the targets that name a target, finds what a
search along dependencies finds. -/
theorem mem_reach_dependents_iff {left stuck : List String} (hp : visited.Perm members)
    (hl : left.Perm stuck) (hsub : stuck ⊆ members) {t : String} (ht : t ∈ left) :
    t ∈ reach left (dependents (p.edges visited)) (dependents (p.edges visited) t) ↔
      p.isCyclic stuck t = true := by
  rw [isCyclic_iff (hl.mem_iff.1 ht), ← Relation.transGen_swap, mem_reach_iff]
  refine reached_iff_chain (fun a b => ?_) ht
  rw [mem_dependents_iff]
  simp only [Function.swap, Among, hl.mem_iff, hp.mem_iff]
  constructor
  · exact fun ⟨hb, ha, hab⟩ => ⟨ha, hb, hsub hb, hsub ha, hab⟩
  · exact fun ⟨ha, hb, _, _, hab⟩ => ⟨hb, ha, hab⟩

/-- When nothing is ready, the targets that did not come are waiting. -/
theorem Sorting.Valid.mem_waiting_iff {s : Sorting} (hn : members.Nodup)
    (h : Valid p members s) (hr : s.ready = []) {n : String} :
    n ∈ s.waiting.map Prod.fst ↔ n ∈ members ∧ n ∉ s.came := by
  have hparts : (s.came ++ s.waiting.map Prod.fst).Perm members := by simpa [hr] using h.parts
  constructor
  · exact fun hw => ⟨hparts.subset (List.mem_append_right _ hw), fun hc =>
      (List.nodup_append.1 (hparts.nodup_iff.2 hn)).2.2 n hc n hw rfl⟩
  · exact fun ⟨hm, hc⟩ => (List.mem_append.1 (hparts.symm.subset hm)).resolve_left hc

/-- The targets on circles, found by counts and put in order, are those that the refusal names. -/
theorem placed_cyclic {s : Sorting} (hp : visited.Perm members) (hn : members.Nodup)
    (hv : Sorting.Valid p members s) (ht : Sorting.InTurn p members s) (hr : s.ready = [])
    {left : List String} (hl : left.Perm (visited.filter (· ∉ s.came))) :
    p.placed (left.filter fun t =>
        t ∈ reach left (dependents (p.edges visited)) (dependents (p.edges visited) t)) =
      (s.waiting.map Prod.fst).filter (p.isCyclic (s.waiting.map Prod.fst)) := by
  have hwait := fun n => hv.mem_waiting_iff hn hr (n := n)
  have hleft : left.Perm (s.waiting.map Prod.fst) := hl.trans
    ((List.perm_ext_iff_of_nodup ((hp.nodup_iff.2 hn).filter _) (hv.nodup_waiting hn)).2 fun n => by
      rw [hwait, List.mem_filter, hp.mem_iff, decide_eq_true_eq])
  refine placed_eq (List.filter_sublist.trans ht.listed) ?_
  have hsame : ∀ t ∈ left, (decide (t ∈ reach left (dependents (p.edges visited))
      (dependents (p.edges visited) t))) = p.isCyclic (s.waiting.map Prod.fst) t := fun t hm => by
    rw [Bool.eq_iff_iff, decide_eq_true_eq]
    exact mem_reach_dependents_iff hp hleft (fun n hw => ((hwait n).1 hw).1) hm
  rw [List.filter_congr hsame]
  exact hleft.filter _

/-- Selected targets in any order, each once, are those of the plan that are selected. -/
theorem perm_selected {selected : List String} (hs : ∀ name ∈ selected, p.has name = true)
    (v : Shuffle) : (v.apply selected.dedup).Perm (p.names.filter (· ∈ selected)) :=
  (v.perm _).trans <|
    (List.perm_ext_iff_of_nodup selected.nodup_dedup (p.nodup_names.filter _)).2 fun n => by
      rw [List.mem_dedup, mem_filter_names_iff hs]

/-- In whatever order the collections are gone through, no count falls below zero, and the order of
execution of selected targets comes out, or the refusal that names the targets on circles. -/
theorem orderShuffled_eq {selected : List String} (hs : ∀ name ∈ selected, p.has name = true)
    (v : Shuffles) : p.orderShuffled v selected = some (p.order selected) := by
  have hn : (p.names.filter (· ∈ selected)).Nodup := p.nodup_names.filter _
  have hp := perm_selected hs v.edges
  have hfind : (v.edges.apply selected.dedup).find? (!p.has ·) = none :=
    List.find?_eq_none.2 fun n hm => by simp [hs n ((mem_filter_names_iff hs).1 (hp.mem_iff.1 hm))]
  rw [orderShuffled, hfind]
  generalize v.edges.apply selected.dedup = visited at hp
  have horder := order_of_has hs rfl
  generalize hmembers : p.names.filter (· ∈ selected) = members at hn hp horder
  have hsub : members.Sublist p.names := hmembers ▸ List.filter_sublist
  -- both orderings start with the same targets and let the same come
  have hv := Sorting.Valid.sortingOf p members
  have ht := Sorting.InTurn.sortingOf hsub
  have hcounts : ∀ t ∈ visited,
      (Listing.ofList (visited.map fun t => (t, degree (p.edges visited) t))).get? t =
        some (degree (p.edges visited) t) := fun t hm => by
    rw [Listing.get?_eq_some_iff, Listing.entries_ofList (by
      simpa [Function.comp_def] using hp.nodup_iff.2 hn)]
    exact List.mem_map.2 ⟨t, hm, rfl⟩
  have hstart : Counting.Tracks p members ⟨_, [], _⟩ (p.sortingOf members) :=
    ⟨hv, ht, rfl, rfl, counts_start hp hn hcounts⟩
  obtain ⟨s', hdrain, hcame⟩ := hstart.drain hp hn
  have hready := placed_eq ((sublist_counted p members isFree).trans hsub)
    (perm_ready hp hn (v.counts.perm visited))
  obtain ⟨hv', hr⟩ := hv.sort hn
  have ht' := ht.sort hn hv
  generalize p.sort (p.sortingOf members) = s at hv' ht' hr hcame horder
  have hlength : s.came.length + (s.waiting.map Prod.fst).length = visited.length := by
    have := (hv'.parts.trans hp.symm).length_eq
    simpa [hr] using this
  change (p.drain (p.edges visited) ⟨p.placed _, [], _⟩).map _ = _
  rw [hready]
  refine (congrArg _ hdrain).trans ?_
  rw [Option.map_some, horder, hcame]
  by_cases hw : s.waiting.map Prod.fst = []
  · have hall : s.came.length = visited.length := by simpa [hw] using hlength
    rw [if_pos hall, if_pos hw]
  · have hpos := List.length_pos_of_ne_nil hw
    have hsome : s.came.length ≠ visited.length := by omega
    rw [if_neg hsome, if_neg hw]
    exact congrArg (fun targets => some (Except.error (PlanError.cycle targets)))
      (placed_cyclic hp hn hv' ht' hr (v.left.perm _))

/-- An order of execution has its targets in their turns. So it depends only on the order of the
plan and on which targets are selected and depend on which: it stays the same if selected targets or
dependencies are named in another order or more often, and in whatever order the collections are
gone through. -/
theorem order_canonical {selected order : List String} (hs : ∀ name ∈ selected, p.has name = true)
    (ho : p.order selected = .ok order) :
    (∀ x ∈ selected, ∀ y ∈ selected,
        order.idxOf x < order.idxOf y ↔ p.turn order x < p.turn order y) ∧
      (∀ (p' : Plan) (selected' : List String), p'.names = p.names →
        (∀ n, n ∈ selected' ↔ n ∈ selected) →
        (∀ t ∈ selected, ∀ d ∈ selected, d ∈ p'.dependencies t ↔ d ∈ p.dependencies t) →
        p'.order selected' = .ok order) ∧
      ∀ v, p.orderShuffled v selected = some (.ok order) := by
  obtain ⟨-, hmem⟩ := ordered_of_order hs ho
  have hturns := pairwise_turn_of_order hs ho
  exact ⟨fun x hx y hy => idxOf_lt_iff_turn_lt hturns ((hmem x).2 hx) ((hmem y).2 hy),
    fun p' selected' hnames hsel hdeps => order_congr hs ho hnames hsel hdeps,
    fun v => ho ▸ orderShuffled_eq hs v⟩

/-- The sample with its layers, with dependencies in another order and named more or less often. -/
def Sample.respelled : Plan :=
  ⟨.ofList
    [("top", ⟨["side", "middle"], []⟩), ("side", ⟨["ground", "ground", "ground"], []⟩),
      ("middle", ⟨["ground"], []⟩), ("ground", ⟨[], []⟩), ("lone", ⟨["outside"], []⟩),
      ("outside", ⟨["ground"], []⟩)]⟩

/-- Collections that are gone through from their ends. -/
def Sample.backward : Shuffles :=
  ⟨⟨List.reverse, List.reverse_perm⟩, ⟨List.reverse, List.reverse_perm⟩,
    ⟨List.reverse, List.reverse_perm⟩⟩

/-- In the sample with its layers the targets without selected dependencies come first, in the order
of the plan, and then those that they make ready; and the order is that of the other spelling. -/
theorem order_canonical_sample :
    (∀ name ∈ ["top", "ground", "lone", "middle", "side", "ground"],
      Sample.layers.has name = true) ∧
    Sample.layers.order ["top", "ground", "lone", "middle", "side", "ground"] =
      .ok ["ground", "lone", "side", "middle", "top"] ∧
    Sample.layers.turn ["ground", "lone", "side", "middle", "top"] "lone" <
      Sample.layers.turn ["ground", "lone", "side", "middle", "top"] "side" ∧
    Sample.respelled.order ["lone", "side", "middle", "top", "ground"] =
      .ok ["ground", "lone", "side", "middle", "top"] ∧
    Sample.layers.orderShuffled Sample.backward
        ["top", "ground", "lone", "middle", "side", "ground"] =
      some (.ok ["ground", "lone", "side", "middle", "top"]) := by
  have hs : ∀ name ∈ ["top", "ground", "lone", "middle", "side", "ground"],
      Sample.layers.has name = true := by decide
  have ho : Sample.layers.order ["top", "ground", "lone", "middle", "side", "ground"] =
      .ok ["ground", "lone", "side", "middle", "top"] := by decide +kernel
  obtain ⟨hturns, hspelling, hshuffled⟩ := order_canonical hs ho
  refine ⟨hs, ho, (hturns "lone" (by decide) "side" (by decide)).1 (by decide),
    hspelling Sample.respelled _ rfl (fun n => ?_) (by decide), hshuffled Sample.backward⟩
  simp only [List.mem_cons, List.not_mem_nil, or_false]
  tauto

end Rollout.Plan
