import Mathlib.Data.Prod.Lex
import Mathlib.Order.Basic
import Rollout.Proofs.Plan.Circles

/-!
# The order of execution is canonical

A target comes in its turn (`turn`): first counts the place of the last of its dependencies in the
order, then its own place in the plan. At every point of the ordering the targets that came and
those that are ready stand in their turns (`Sorting.InTurn.step`), for whatever becomes ready when a
target comes has that target as the last of its dependencies, and all that stood before have a
dependency before it. So an order of execution is increasing in turns (`pairwise_turn_of_order`),
and there is but one such order of given targets with given dependencies (`eq_of_pairwise_turn`).
-/

namespace Rollout.Plan

open Relation (TransGen)

variable {p p' : Plan} {members order : List String}

/-- The place in an order of the last of the dependencies of a target, or -1 if it has none in the
order. -/
def lastPlace (p : Plan) (order : List String) (t : String) : Int :=
  ((p.dependencies t).filter (· ∈ order)).foldr (fun d last => max (order.idxOf d : Int) last) (-1)

/-- When a target has its turn in an order: by the place of the last of its dependencies, and among
targets with the same one by the place in the plan. -/
def turn (p : Plan) (order : List String) (t : String) : Int ×ₗ Nat :=
  toLex (p.lastPlace order t, p.names.idxOf t)

theorem lastPlace_le_iff {t : String} {i : Int} :
    p.lastPlace order t ≤ i ↔
      -1 ≤ i ∧ ∀ d ∈ p.dependencies t, d ∈ order → (order.idxOf d : Int) ≤ i := by
  have key (l : List String) :
      l.foldr (fun d last => max (order.idxOf d : Int) last) (-1) ≤ i ↔
        -1 ≤ i ∧ ∀ d ∈ l, (order.idxOf d : Int) ≤ i := by
    induction l with
    | nil => simp
    | cons d r ih => simp [ih, and_left_comm]
  simp [lastPlace, key]

/-- The last dependency of a target stands before a place if all of them do. -/
theorem lastPlace_lt {t : String} {i : Nat}
    (h : ∀ d ∈ p.dependencies t, d ∈ order → order.idxOf d < i) : p.lastPlace order t < i := by
  refine Int.lt_of_le_sub_one (lastPlace_le_iff.2 ⟨by omega, fun d hd ho => ?_⟩)
  have := h d hd ho
  omega

/-- A dependency is the last one if none stands behind it. -/
theorem lastPlace_eq {t last : String} (hlast : last ∈ p.dependencies t) (ho : last ∈ order)
    (h : ∀ d ∈ p.dependencies t, d ∈ order → order.idxOf d ≤ order.idxOf last) :
    p.lastPlace order t = order.idxOf last :=
  le_antisymm (lastPlace_le_iff.2 ⟨by omega, fun d hd ho => Int.ofNat_le.2 (h d hd ho)⟩)
    ((lastPlace_le_iff.1 le_rfl).2 last hlast ho)

/-- The last place of the dependencies of a target depends on the places of its dependencies
only. -/
theorem lastPlace_congr {order' : List String} {t : String}
    (h : ∀ d, d ∈ p.dependencies t ∧ d ∈ order ↔ d ∈ p'.dependencies t ∧ d ∈ order')
    (hi : ∀ d ∈ p.dependencies t, d ∈ order → order.idxOf d = order'.idxOf d) :
    p.lastPlace order t = p'.lastPlace order' t := by
  refine eq_of_forall_ge_iff fun i => ?_
  rw [lastPlace_le_iff, lastPlace_le_iff]
  refine and_congr_right fun _ => ⟨fun hle d hd ho => ?_, fun hle d hd ho => ?_⟩
  · obtain ⟨hd', ho'⟩ := (h d).2 ⟨hd, ho⟩
    rw [← hi d hd' ho']
    exact hle d hd' ho'
  · obtain ⟨hd', ho'⟩ := (h d).1 ⟨hd, ho⟩
    rw [hi d hd ho]
    exact hle d hd' ho'

theorem turn_lt_of_lastPlace_lt {a b : String}
    (h : p.lastPlace order a < p.lastPlace order b) : p.turn order a < p.turn order b :=
  Prod.Lex.toLex_lt_toLex.2 (.inl h)

theorem turn_lt_of_lastPlace_eq {a b : String}
    (h : p.lastPlace order a = p.lastPlace order b) (hp : p.names.idxOf a < p.names.idxOf b) :
    p.turn order a < p.turn order b :=
  Prod.Lex.toLex_lt_toLex.2 (.inr ⟨h, hp⟩)

/-! ## The ordering goes by turns -/

/-- The targets that came and those that are ready stand in their turns in whatever order of the
targets goes on from them, and the waiting ones stand in the order of the plan. -/
structure Sorting.InTurn (p : Plan) (members : List String) (s : Sorting) : Prop where
  turns : ∀ order, s.came.reverse ++ s.ready <+: order → order ⊆ members →
    (s.came.reverse ++ s.ready).Pairwise fun a b => p.turn order a < p.turn order b
  listed : (s.waiting.map Prod.fst).Sublist p.names

/-- A target that has not come is among what has not come as often as it is named. -/
theorem count_le_countP {name : String} {came : List String} (hm : name ∈ members)
    (hc : name ∉ came) (deps : List String) :
    deps.count name ≤ deps.countP fun d => d ∈ members ∧ d ∉ came :=
  List.countP_mono_left fun d _ hd => by simp [eq_of_beq hd, hm, hc]

/-- When a target comes, those become ready that name it, and of whose dependencies that had not
come it is the only one. -/
theorem Sorting.Valid.mem_relieved_iff (hn : members.Nodup) {name : String}
    {ready came : List String} {waiting : List (String × Nat)}
    (h : Valid p members ⟨name :: ready, came, waiting⟩) {n : String} :
    n ∈ ((p.relieve name waiting).filter isFree).map Prod.fst ↔
      n ∈ members ∧ name ∈ p.dependencies n ∧
        (p.dependencies n).countP (fun d => d ∈ members ∧ d ∉ came) =
          (p.dependencies n).count name := by
  obtain ⟨hname, hcame⟩ := h.ready_fresh hn
  constructor
  · intro hb
    obtain ⟨e, he, rfl⟩ := List.mem_map.1 hb
    obtain ⟨he, hfree⟩ := List.mem_filter.1 he
    obtain ⟨⟨n, c⟩, hw, rfl⟩ := List.mem_map.1 he
    have hm : n ∈ members := h.parts.subset (by
      simp only [List.mem_append]
      exact .inr (.inr (List.mem_map.2 ⟨_, hw, rfl⟩)))
    -- it waited before and does not wait now, so it waited for the newcomer, and for no other
    have hwaits : c ≠ 0 := h.waits _ hw
    have hc : c = (p.dependencies n).countP fun d => d ∈ members ∧ d ∉ came := h.counts _ hw
    have hzero : c - (p.dependencies n).count name = 0 := by simpa [isFree] using hfree
    have hpos : 0 < (p.dependencies n).count name := by omega
    exact ⟨hm, List.count_pos_iff.1 hpos,
      le_antisymm (hc ▸ Nat.le_of_sub_eq_zero hzero) (count_le_countP hname hcame _)⟩
  · rintro ⟨hm, hdep, heq⟩
    -- what names the newcomer has not come and is not ready
    have hparts : n ∈ came ++ (name :: ready ++ waiting.map Prod.fst) := h.parts.symm.subset hm
    have hlater := (List.mem_append.1 hparts).resolve_left fun hc =>
      hcame (h.closed n hc name hdep hname)
    have hwait := (List.mem_append.1 hlater).resolve_left fun hr =>
      hcame (h.free n hr name hdep hname)
    obtain ⟨⟨n, c⟩, hw, rfl⟩ := List.mem_map.1 hwait
    have hc : c = (p.dependencies n).countP fun d => d ∈ members ∧ d ∉ came := h.counts _ hw
    have hzero : c - (p.dependencies n).count name = 0 := Nat.sub_eq_zero_of_le (hc ▸ heq.le)
    exact List.mem_map.2 ⟨(n, c - (p.dependencies n).count name), List.mem_filter.2
      ⟨List.mem_map.2 ⟨_, hw, rfl⟩, by simp [isFree, hzero]⟩, rfl⟩

/-- What becomes ready keeps the order of those that waited. -/
theorem sublist_relieved (p : Plan) (name : String) (waiting : List (String × Nat))
    (f : String × Nat → Bool) :
    (((p.relieve name waiting).filter f).map Prod.fst).Sublist (waiting.map Prod.fst) := by
  simpa using (List.filter_sublist (p := f) (l := p.relieve name waiting)).map Prod.fst

/-- In an order that goes on from some targets in front of another one, these stand before it. -/
theorem idxOf_of_isPrefix {name : String} {ready came : List String}
    (h : came.reverse ++ name :: ready <+: order) (hc : name ∉ came) :
    name ∈ order ∧ ∀ d ∈ came, order.idxOf d < order.idxOf name := by
  obtain ⟨rest, rfl⟩ := h
  refine ⟨by simp, fun d hd => ?_⟩
  rw [List.append_assoc, List.idxOf_append_of_mem (by simpa using hd),
    List.idxOf_append_of_notMem (by simpa using hc)]
  exact Nat.lt_add_right _ (List.idxOf_lt_length_of_mem (List.mem_reverse.2 hd))

namespace Sorting.InTurn

/-- At the start those are ready that have no dependencies among the targets, in the order of the
plan. -/
theorem sortingOf (hm : members.Sublist p.names) : InTurn p members (p.sortingOf members) := by
  refine ⟨fun order hpre hsub => ?_, (sublist_counted p members _).trans hm⟩
  have hv := Valid.sortingOf p members
  -- what is ready has no dependencies among the targets, so none in the order
  have hnone : ∀ a ∈ (p.sortingOf members).ready, p.lastPlace order a = -1 := fun a ha =>
    le_antisymm
      (lastPlace_le_iff.2 ⟨le_rfl, fun d hd ho => nomatch hv.free a ha d hd (hsub ho)⟩)
      (lastPlace_le_iff.1 le_rfl).1
  have hready : (p.sortingOf members).ready.Sublist p.names :=
    (sublist_counted p members isFree).trans hm
  refine (pairwise_place hready).imp_of_mem fun ha hb hlt => ?_
  exact turn_lt_of_lastPlace_eq ((hnone _ ha).trans (hnone _ hb).symm) hlt

/-- The coming of a ready target keeps all in their turns. -/
theorem step {name : String} {ready came : List String} {waiting : List (String × Nat)}
    (hn : members.Nodup) (hv : Valid p members ⟨name :: ready, came, waiting⟩)
    (h : InTurn p members ⟨name :: ready, came, waiting⟩) :
    InTurn p members
      ⟨ready ++ ((p.relieve name waiting).filter isFree).map Prod.fst, name :: came,
        (p.relieve name waiting).filter (!isFree ·)⟩ := by
  have hv' := hv.step hn
  obtain ⟨-, hcame⟩ := hv.ready_fresh hn
  refine ⟨fun order hpre hsub => ?_, (sublist_relieved p name waiting _).trans h.listed⟩
  have hold : came.reverse ++ name :: ready <+: order :=
    .trans ⟨((p.relieve name waiting).filter isFree).map Prod.fst, by simp⟩ hpre
  obtain ⟨hplace, hbefore⟩ := idxOf_of_isPrefix hold hcame
  -- the last dependency of all that stood before has come earlier than the newcomer
  have hearly : ∀ a ∈ came.reverse ++ name :: ready,
      p.lastPlace order a < order.idxOf name := fun a ha =>
    lastPlace_lt fun d hd ho => hbefore d <| by
      rcases List.mem_append.1 ha with ha | ha
      · exact hv.closed a (List.mem_reverse.1 ha) d hd (hsub ho)
      · exact hv.free a ha d hd (hsub ho)
  -- and the newcomer is the last dependency of all that it makes ready
  have hlate : ∀ b ∈ ((p.relieve name waiting).filter isFree).map Prod.fst,
      p.lastPlace order b = order.idxOf name := fun b hb =>
    lastPlace_eq ((hv.mem_relieved_iff hn).1 hb).2.1 hplace fun d hd ho => by
      rcases List.mem_cons.1 (hv'.free b (List.mem_append_right _ hb) d hd (hsub ho)) with rfl | hd
      · exact le_rfl
      · exact (hbefore d hd).le
  have hsplit : (name :: came).reverse ++
      (ready ++ ((p.relieve name waiting).filter isFree).map Prod.fst) =
        (came.reverse ++ name :: ready) ++
          ((p.relieve name waiting).filter isFree).map Prod.fst := by simp
  rw [hsplit]
  refine List.pairwise_append.2 ⟨h.turns order hold hsub, ?_, fun a ha b hb => ?_⟩
  · refine (pairwise_place ((sublist_relieved p name waiting _).trans h.listed)).imp_of_mem ?_
    exact fun ha hb hlt => turn_lt_of_lastPlace_eq ((hlate _ ha).trans (hlate _ hb).symm) hlt
  · exact turn_lt_of_lastPlace_lt ((hearly a ha).trans_eq (hlate b hb).symm)

/-- All stand in their turns at the end. -/
theorem sort {s : Sorting} (hn : members.Nodup) (hv : Valid p members s)
    (h : InTurn p members s) : InTurn p members (p.sort s) := by
  fun_induction Plan.sort p s with
  | case1 => exact h
  | case2 name ready came waiting relieved ih => exact ih (hv.step hn) (h.step hn hv)

end Sorting.InTurn

/-! ## There is one order -/

/-- An order of execution of targets is increasing in turns. -/
theorem pairwise_turn_of_order {selected : List String} (hs : ∀ name ∈ selected, p.has name = true)
    (ho : p.order selected = .ok order) :
    order.Pairwise fun a b => p.turn order a < p.turn order b := by
  have hn : (p.names.filter (· ∈ selected)).Nodup := p.nodup_names.filter _
  have hv := Sorting.Valid.sortingOf p (p.names.filter (· ∈ selected))
  have ht := (Sorting.InTurn.sortingOf List.filter_sublist).sort hn hv
  obtain ⟨hv, hr⟩ := hv.sort hn
  rw [order_of_has hs rfl] at ho
  split at ho
  · cases ho
    have hsub : (p.sort (p.sortingOf (p.names.filter (· ∈ selected)))).came.reverse ⊆
        p.names.filter (· ∈ selected) := fun n hn =>
      hv.parts.subset (List.mem_append_left _ (List.mem_reverse.1 hn))
    simpa [hr] using ht.turns _ (by simp [hr]) hsub
  · cases ho

/-- In an order that is increasing in turns, one target stands before another one if and only if it
has its turn earlier. -/
theorem idxOf_lt_iff_turn_lt (h : order.Pairwise fun a b => p.turn order a < p.turn order b)
    {x y : String} (hx : x ∈ order) (hy : y ∈ order) :
    order.idxOf x < order.idxOf y ↔ p.turn order x < p.turn order y := by
  have hlt : ∀ {a b}, a ∈ order → b ∈ order → order.idxOf a < order.idxOf b →
      p.turn order a < p.turn order b := fun {a b} ha hb hab => by
    have := List.pairwise_iff_getElem.1 h _ _ (List.idxOf_lt_length_of_mem ha)
      (List.idxOf_lt_length_of_mem hb) hab
    rwa [List.getElem_idxOf, List.getElem_idxOf] at this
  refine ⟨hlt hx hy, fun ht => ?_⟩
  rcases Nat.lt_trichotomy (order.idxOf x) (order.idxOf y) with hi | hi | hi
  · exact hi
  · rw [(List.idxOf_inj hx).1 hi] at ht
    exact absurd ht (lt_irrefl _)
  · exact absurd ht (lt_asymm (hlt hy hx hi))

/-- The target behind the front of an order has its turn before every other one that is not in the
front. -/
theorem turn_lt_of_front (h : order.Pairwise fun a b => p.turn order a < p.turn order b)
    {front back : List String} {x y : String} (hf : order = front ++ x :: back) (hy : y ∈ order)
    (hyf : y ∉ front) (hne : y ≠ x) : p.turn order x < p.turn order y := by
  have hback : y ∈ back := by simpa [hf, hyf, hne] using hy
  have hpair : (front ++ x :: back).Pairwise fun a b => p.turn order a < p.turn order b := hf ▸ h
  exact List.rel_of_pairwise_cons (List.pairwise_append.1 hpair).2.1 hback

section Unique

variable {order' : List String} (hnames : p'.names = p.names)
  (hmem : ∀ n, n ∈ order' ↔ n ∈ order)
  (hdeps : ∀ t ∈ order, ∀ d ∈ order, d ∈ p'.dependencies t ↔ d ∈ p.dependencies t)

include hnames hmem hdeps

/-- A target has the same turn in two orders of the same targets if its dependencies are in their
common front. -/
theorem turn_congr_of_front {front back back' : List String} (hf : order = front ++ back)
    (hf' : order' = front ++ back') {t : String} (ht : t ∈ order)
    (hd : ∀ d ∈ p.dependencies t, d ∈ order → d ∈ front) :
    p.turn order t = p'.turn order' t := by
  rw [turn, turn, hnames]
  congr 2
  refine lastPlace_congr (fun d => ?_) fun d hdt hdo => ?_
  · constructor
    · exact fun h => ⟨(hdeps t ht d h.2).2 h.1, (hmem d).2 h.2⟩
    · exact fun h => ⟨(hdeps t ht d ((hmem d).1 h.2)).1 h.1, (hmem d).1 h.2⟩
  · rw [hf, hf', List.idxOf_append_of_mem (hd d hdt hdo), List.idxOf_append_of_mem (hd d hdt hdo)]

/-- Two orders with the same targets, the same dependencies among them and the same order of the
targets in the plan are the same if both are topological and increasing in turns. -/
theorem eq_of_pairwise_turn (ho : p.Ordered order) (ho' : p'.Ordered order')
    (ht : order.Pairwise fun a b => p.turn order a < p.turn order b)
    (ht' : order'.Pairwise fun a b => p'.turn order' a < p'.turn order' b) : order = order' := by
  have hlength : order.length = order'.length :=
    ((List.perm_ext_iff_of_nodup ho.nodup ho'.nodup).2 fun n => (hmem n).symm).length_eq
  -- on what the first order has behind a common front of the two
  suffices key : ∀ back front back', order = front ++ back → order' = front ++ back' →
      order = order' from key order [] order' rfl rfl
  intro back
  induction back with
  | nil =>
    intro front back' hf hf'
    have hnil : back' = [] := by simpa [hf, hf'] using hlength.symm
    rw [hf, hf', hnil]
  | cons x r ih =>
    intro front back' hf hf'
    cases back' with
    | nil => simp [hf, hf'] at hlength
    | cons y r' =>
      suffices hxy : x = y from
        ih (front ++ [x]) r' (by simpa using hf) (by simpa [hxy] using hf')
      have hx : x ∈ order := hf ▸ by simp
      have hy : y ∈ order' := hf' ▸ by simp
      have hxf : x ∉ front := fun h =>
        (List.nodup_append.1 (hf ▸ ho.nodup)).2.2 x h x List.mem_cons_self rfl
      have hyf : y ∉ front := fun h =>
        (List.nodup_append.1 (hf' ▸ ho'.nodup)).2.2 y h y List.mem_cons_self rfl
      -- both have their dependencies in the front, so their turns are the same in both orders
      have hxturn : p.turn order x = p'.turn order' x :=
        turn_congr_of_front hnames hmem hdeps hf hf' hx fun d hd hdo =>
          (hf ▸ ho).mem_before hd (hf ▸ hdo)
      have hyturn : p.turn order y = p'.turn order' y :=
        turn_congr_of_front hnames hmem hdeps hf hf' ((hmem y).1 hy) fun d hd hdo =>
          (hf' ▸ ho').mem_before ((hdeps y ((hmem y).1 hy) d hdo).2 hd)
            (hf' ▸ (hmem d).2 hdo)
      -- so neither can come before the other
      by_contra hne
      have hlt := turn_lt_of_front ht hf ((hmem y).1 hy) hyf (Ne.symm hne)
      have hlt' := turn_lt_of_front ht' hf' ((hmem x).2 hx) hxf hne
      rw [← hxturn, ← hyturn] at hlt'
      exact lt_asymm hlt hlt'

end Unique

/-- Plans with the same targets and the same dependencies among the selected ones, however often and
in whatever order they are named, have the same order of execution of them. -/
theorem order_congr {selected selected' : List String} (hs : ∀ name ∈ selected, p.has name = true)
    (ho : p.order selected = .ok order) (hnames : p'.names = p.names)
    (hsel : ∀ n, n ∈ selected' ↔ n ∈ selected)
    (hdeps : ∀ t ∈ selected, ∀ d ∈ selected, d ∈ p'.dependencies t ↔ d ∈ p.dependencies t) :
    p'.order selected' = .ok order := by
  have hs' : ∀ name ∈ selected', p'.has name = true := fun name hn => by
    rw [has_iff, hnames, ← has_iff]
    exact hs name ((hsel name).1 hn)
  -- the dependencies among the selected targets are the same, so there is no circle
  have hacyclic := (order_eq_ok_iff hs).1 ⟨order, ho⟩
  have hle : p'.Among selected' ≤ p.Among selected := fun a b ⟨ha, hb, hab⟩ =>
    ⟨(hsel a).1 ha, (hsel b).1 hb, (hdeps a ((hsel a).1 ha) b ((hsel b).1 hb)).1 hab⟩
  obtain ⟨order', ho'⟩ := (order_eq_ok_iff hs').2 fun t ht =>
    hacyclic t (TransGen.mono hle t t ht)
  obtain ⟨hord, hmem⟩ := ordered_of_order hs ho
  obtain ⟨hord', hmem'⟩ := ordered_of_order hs' ho'
  have hsame : ∀ n, n ∈ order' ↔ n ∈ order := fun n =>
    (hmem' n).trans ((hsel n).trans (hmem n).symm)
  rw [ho', eq_of_pairwise_turn hnames hsame
    (fun t ht d hd => hdeps t ((hmem t).1 ht) d ((hmem d).1 hd)) hord hord'
    (pairwise_turn_of_order hs ho) (pairwise_turn_of_order hs' ho')]

end Rollout.Plan
