import Mathlib.Data.List.Find
import Rollout.Proofs.Plan.Schedule

/-!
# Skipping

To skip, a list of targets is gone through once. A pending target is skipped if a dependency of it
has failed or was skipped, be it before or on the way; no other status changes
(`get?_skipBlocked`).

If every target stands in the list behind its dependencies, these have their last status when the
target is looked at, so each status in the end is what the others say of it (`agrees_skipBlocked`).
For this reason once is enough: what is skipped are the pending targets from which a chain of
pending ones leads to a target that failed or was skipped, and no such target is left
(`skipBlocked_skips_doomed`).
-/

namespace Rollout

variable {p : Plan} {names order before after : List String} {s s₀ : Listing Status} {t : String}

/-! ## What is skipped -/

/-- A target that has failed or was skipped is not pending. -/
theorem ne_pending_of_blocks {s : Option Status} (h : Status.blocks s = true) :
    s ≠ some .pending := by
  rintro rfl
  cases h

/-- Skipping touches no target that is not pending. -/
theorem skipBlocked_of_ne (h : s.get? t ≠ some .pending) :
    (skipBlocked p names s).get? t = s.get? t := by
  fun_induction skipBlocked p names s with
  | case1 => rfl
  | case2 name more s hp d _ ih =>
    -- the target that is skipped is pending, so it is another one
    have hne : name ≠ t := fun he => h (he ▸ hp)
    have hput : (s.put name (.skipped (.dependency d))).get? t = s.get? t := by simp [hne]
    exact (ih (hput ▸ h)).trans hput
  | case3 _ _ _ _ _ ih => exact ih h
  | case4 _ _ _ _ ih => exact ih h

/-- What skipping does to the status of a target: nothing, or the target was pending and is now
skipped for a dependency that has failed or was skipped. -/
theorem get?_skipBlocked (p : Plan) (names : List String) (s : Listing Status) (t : String) :
    (skipBlocked p names s).get? t = s.get? t ∨
      t ∈ names ∧ s.get? t = some .pending ∧ ∃ d ∈ p.dependencies t,
        (skipBlocked p names s).get? t = some (.skipped (.dependency d)) ∧
        Status.blocks ((skipBlocked p names s).get? d) = true := by
  fun_induction skipBlocked p names s with
  | case1 => exact .inl rfl
  | case2 name more s hp d hd ih =>
    by_cases he : name = t
    · -- the target is skipped here; neither it nor the dependency is pending from then on
      subst he
      have hb : Status.blocks (s.get? d) = true := by simpa using List.find?_some hd
      have hne : name ≠ d := fun he => ne_pending_of_blocks hb (he ▸ hp)
      have hput : (s.put name (.skipped (.dependency d))).get? d = s.get? d := by simp [hne]
      refine .inr ⟨List.mem_cons_self, hp, d, List.mem_of_find?_eq_some hd, ?_, ?_⟩
      · rw [skipBlocked_of_ne (by simp)]
        simp
      · rwa [skipBlocked_of_ne (hput ▸ ne_pending_of_blocks hb), hput]
    · have hput : (s.put name (.skipped (.dependency d))).get? t = s.get? t := by simp [he]
      rw [hput] at ih
      rcases ih with ih | ⟨hm, ih⟩
      · exact .inl ih
      · exact .inr ⟨List.mem_cons_of_mem _ hm, ih⟩
  | case3 name more s _ _ ih =>
    rcases ih with ih | ⟨hm, ih⟩
    · exact .inl ih
    · exact .inr ⟨List.mem_cons_of_mem _ hm, ih⟩
  | case4 name more s _ ih =>
    rcases ih with ih | ⟨hm, ih⟩
    · exact .inl ih
    · exact .inr ⟨List.mem_cons_of_mem _ hm, ih⟩

theorem names_skipBlocked (p : Plan) (names : List String) (s : Listing Status) :
    (skipBlocked p names s).names = s.names := by
  fun_induction skipBlocked p names s with
  | case1 => rfl
  | case2 name more s hp d _ ih =>
    have hmem : name ∈ s.names := (s.isSome_get? name).1 (by simp [hp])
    rw [ih, Listing.names_put_of_mem hmem]
  | case3 _ _ _ _ _ ih => exact ih
  | case4 _ _ _ _ ih => exact ih

/-- Where no pending target of the list has a dependency that failed or was skipped, none is
skipped. -/
theorem skipBlocked_of_not_blocks
    (h : ∀ t ∈ names, s.get? t = some .pending →
      ∀ d ∈ p.dependencies t, Status.blocks (s.get? d) = false) :
    skipBlocked p names s = s := by
  fun_induction skipBlocked p names s with
  | case1 => rfl
  | case2 name more s hp d hd _ =>
    have hb : Status.blocks (s.get? d) = true := by simpa using List.find?_some hd
    cases (h name List.mem_cons_self hp d (List.mem_of_find?_eq_some hd)).symm.trans hb
  | case3 _ _ _ _ _ ih => exact ih fun t ht => h t (List.mem_cons_of_mem _ ht)
  | case4 _ _ _ _ ih => exact ih fun t ht => h t (List.mem_cons_of_mem _ ht)

/-- A list is gone through part by part. -/
theorem skipBlocked_append (p : Plan) (names more : List String) (s : Listing Status) :
    skipBlocked p (names ++ more) s = skipBlocked p more (skipBlocked p names s) := by
  fun_induction skipBlocked p names s with
  | case1 => rfl
  | case2 _ _ _ hp _ hd ih => simp only [List.cons_append, skipBlocked, hp, hd, if_true, ih]
  | case3 _ _ _ hp hd ih => simp only [List.cons_append, skipBlocked, hp, hd, if_true, ih]
  | case4 _ _ _ hp ih => simp only [List.cons_append, skipBlocked, hp, if_false, ih]

namespace Plan

/-- What becomes of a pending target: it is skipped for the first dependency that failed or was
skipped, if there is one. -/
def verdict (p : Plan) (s : Listing Status) (t : String) : Status :=
  match (p.dependencies t).find? fun d => Status.blocks (s.get? d) with
  | some d => .skipped (.dependency d)
  | none => .pending

/-- A pending target waits for its dependencies. -/
def Waits (p : Plan) (s : Listing Status) (t d : String) : Prop :=
  s.get? t = some .pending ∧ d ∈ p.dependencies t

/-- A pending target depends on one that failed or was skipped, be it through other pending ones. -/
def Doomed (p : Plan) (s : Listing Status) (t : String) : Prop :=
  ∃ f, Relation.TransGen (p.Waits s) t f ∧ Status.blocks (s.get? f) = true

/-- An order that lists every target behind its dependencies, as far as it lists these. -/
def Follows (p : Plan) (order : List String) : Prop :=
  ∀ before t after, order = before ++ t :: after →
    ∀ d ∈ p.dependencies t, d ∈ order → d ∈ before

theorem Ordered.follows (h : p.Ordered order) : p.Follows order := by
  rintro before t after rfl d hd hm
  exact h.mem_before hd hm

/-- What is looked at next is no dependency of anything looked at so far, unless it was looked at
before. -/
theorem Follows.mem_of_dependency {x : String} (h : p.Follows (before ++ x :: after))
    (ht : t ∈ before ++ [x]) (hx : x ∈ p.dependencies t) : x ∈ before := by
  rcases List.mem_append.1 ht with ht | ht
  · obtain ⟨front, back, rfl⟩ := List.append_of_mem ht
    have hfront := h front t (back ++ x :: after) (by simp) x hx (by simp)
    exact List.mem_append_left _ hfront
  · cases List.mem_singleton.1 ht
    exact h before t after rfl t hx (by simp)

theorem verdict_congr {s' : Listing Status} (h : ∀ d ∈ p.dependencies t, s'.get? d = s.get? d) :
    p.verdict s' t = p.verdict s t := by
  rw [verdict, verdict, List.find?_congr fun d hd => by rw [h d hd]]

/-- A pending target stays pending if no dependency of it failed or was skipped, and is skipped for
the first one otherwise. -/
theorem verdict_cases (p : Plan) (s : Listing Status) (t : String) :
    (p.verdict s t = .pending ∧ ∀ d ∈ p.dependencies t, Status.blocks (s.get? d) = false) ∨
      ∃ d, (p.dependencies t).find? (fun d => Status.blocks (s.get? d)) = some d ∧
        p.verdict s t = .skipped (.dependency d) := by
  unfold verdict
  cases h : (p.dependencies t).find? fun d => Status.blocks (s.get? d) with
  | none => exact .inl ⟨rfl, by simpa using h⟩
  | some d => exact .inr ⟨d, rfl, rfl⟩

theorem Doomed.pending (h : p.Doomed s t) : s.get? t = some .pending := by
  obtain ⟨f, hchain, -⟩ := h
  obtain ⟨_, hfirst, -⟩ := Relation.TransGen.head'_iff.1 hchain
  exact hfirst.1

/-- Who waits for a target that failed or was skipped, or for one that is doomed, is doomed. -/
theorem Waits.doomed {d : String} (h : p.Waits s t d)
    (hd : Status.blocks (s.get? d) = true ∨ p.Doomed s d) : p.Doomed s t := by
  rcases hd with hd | ⟨f, hchain, hf⟩
  · exact ⟨d, .single h, hd⟩
  · exact ⟨f, .head h hchain, hf⟩

/-- Nothing is doomed because a doomed target was skipped. -/
theorem Doomed.of_put {x : String} {reason : SkipReason}
    (h : p.Doomed (s.put x (.skipped reason)) t) (hx : p.Doomed s x) : p.Doomed s t := by
  have hwaits {t d : String} (hw : p.Waits (s.put x (.skipped reason)) t d) : p.Waits s t d := by
    obtain ⟨hp, hd⟩ := hw
    rw [Listing.get?_put] at hp
    split at hp
    · cases hp
    · exact ⟨hp, hd⟩
  obtain ⟨f, hchain, hf⟩ := h
  induction hchain using Relation.TransGen.head_induction_on with
  | single hw =>
    refine (hwaits hw).doomed ?_
    rw [Listing.get?_put] at hf
    split at hf
    · next heq => exact .inr (heq ▸ hx)
    · exact .inl hf
  | head hw _ ih => exact (hwaits hw).doomed (.inr ih)

/-- Statuses after some targets were looked at agree with themselves: what was pending has the
status that follows from the others, and nothing else has changed. -/
def Agrees (p : Plan) (s₀ : Listing Status) (seen : List String) (s : Listing Status) : Prop :=
  ∀ t, s.get? t =
    if t ∈ seen ∧ s₀.get? t = some .pending then some (p.verdict s t) else s₀.get? t

end Plan

/-! ## A look at one target -/

theorem get?_skipBlocked_single (p : Plan) (x : String) (s : Listing Status) (t : String) :
    (skipBlocked p [x] s).get? t =
      if x = t ∧ s.get? t = some .pending then some (p.verdict s t) else s.get? t := by
  by_cases ht : x = t
  · subst ht
    simp only [skipBlocked, Plan.verdict, true_and]
    split
    · next hp =>
      cases (p.dependencies x).find? fun d => Status.blocks (s.get? d) with
      | none => exact hp
      | some d => simp
    · rfl
  · rw [if_neg fun h => ht h.1]
    exact (get?_skipBlocked p [x] s t).resolve_right fun h => ht (List.mem_singleton.1 h.1).symm

namespace Plan.Agrees

variable {x : String}

/-- A second look at a target changes nothing. -/
theorem get?_of_mem (h : p.Agrees s₀ before s) (hx : x ∈ before) (t : String) :
    (skipBlocked p [x] s).get? t = s.get? t := by
  rw [get?_skipBlocked_single, ite_eq_right_iff]
  rintro ⟨rfl, hp⟩
  have hagree := h x
  rw [hp] at hagree ⊢
  split at hagree
  · exact hagree.symm
  · next hnot => exact absurd ⟨hx, hagree.symm⟩ hnot

/-- Statuses still agree with themselves after a look at one more target, if no target depends on it
that was looked at before. -/
theorem look (h : p.Agrees s₀ before s)
    (hx : ∀ t ∈ before ++ [x], x ∈ p.dependencies t → x ∈ before) :
    p.Agrees s₀ (before ++ [x]) (skipBlocked p [x] s) := by
  intro t
  by_cases hm : x ∈ before
  · have hsame := h.get?_of_mem hm
    have hmem : t ∈ before ++ [x] ↔ t ∈ before := by
      simpa using fun ht : t = x => ht ▸ hm
    rw [hsame, verdict_congr fun d _ => hsame d]
    simpa only [hmem] using h t
  · -- the verdicts so far stay, because none of them is by the status of `x`
    have hverdict : ∀ t ∈ before ++ [x],
        p.verdict (skipBlocked p [x] s) t = p.verdict s t := fun t ht =>
      verdict_congr fun d hd => by
        have hne : x ≠ d := fun heq => hm (hx t ht (heq ▸ hd))
        rw [get?_skipBlocked_single, if_neg fun h => hne h.1]
    rw [get?_skipBlocked_single]
    by_cases ht : x = t
    · subst ht
      have hold : s.get? x = s₀.get? x := (h x).trans (if_neg fun h => hm h.1)
      rw [hold, hverdict x (by simp)]
      simp
    · rw [if_neg fun h => ht h.1, h t]
      by_cases hb : t ∈ before
      · rw [hverdict t (List.mem_append_left _ hb)]
        simp [hb]
      · simp [hb, Ne.symm ht]

end Plan.Agrees

/-! ## Once is enough -/

/-- Statuses agree with themselves after an order was gone through. -/
theorem agrees_skipBlocked (ho : p.Follows order) (s : Listing Status) :
    p.Agrees s order (skipBlocked p order s) := by
  have hrun : ∀ seen, seen <+: order → p.Agrees s seen (skipBlocked p seen s) := by
    intro seen hseen
    induction seen using List.reverseRecOn with
    | nil => simp [Plan.Agrees, skipBlocked]
    | append_singleton before x ih =>
      have hbefore := ih ((List.prefix_append before [x]).trans hseen)
      obtain ⟨after, rfl⟩ := hseen
      rw [List.append_assoc, List.singleton_append] at ho
      rw [skipBlocked_append]
      exact hbefore.look fun t ht => ho.mem_of_dependency ht
  exact hrun order List.prefix_rfl

/-- In the end no pending target of the order has a dependency that failed or was skipped. -/
theorem not_blocks_of_skipBlocked (ho : p.Follows order) (ht : t ∈ order)
    (hp : (skipBlocked p order s).get? t = some .pending) {d : String}
    (hd : d ∈ p.dependencies t) : Status.blocks ((skipBlocked p order s).get? d) = false := by
  have hagree := agrees_skipBlocked ho s t
  rw [hp] at hagree
  split at hagree
  · rcases p.verdict_cases (skipBlocked p order s) t with ⟨-, hnone⟩ | ⟨d', -, hv⟩
    · exact hnone d hd
    · rw [hv] at hagree
      cases hagree
  · next hnot => exact absurd ⟨ht, hagree.symm⟩ hnot

/-- A target that is skipped is doomed, whatever list is gone through. -/
theorem doomed_of_skipBlocked (h : (skipBlocked p names s).get? t ≠ s.get? t) : p.Doomed s t := by
  fun_induction skipBlocked p names s with
  | case1 => exact absurd rfl h
  | case2 name more s hp d hd ih =>
    have hb : Status.blocks (s.get? d) = true := by simpa using List.find?_some hd
    have hname : p.Doomed s name :=
      Plan.Waits.doomed ⟨hp, List.mem_of_find?_eq_some hd⟩ (.inl hb)
    by_cases he : name = t
    · exact he ▸ hname
    · have hput : (s.put name (.skipped (.dependency d))).get? t = s.get? t := by simp [he]
      rw [hput] at ih
      exact (ih h).of_put hname
  | case3 _ _ _ _ _ ih => exact ih h
  | case4 _ _ _ _ ih => exact ih h

section Once

variable (ho : p.Follows order) (hs : ∀ t, s.get? t = some .pending → t ∈ order)

include ho hs

/-- A pending target comes to its verdict by the statuses in the end. -/
theorem eq_verdict_of_pending (hp : s.get? t = some .pending) :
    (skipBlocked p order s).get? t = some (p.verdict (skipBlocked p order s) t) :=
  (agrees_skipBlocked ho s t).trans (if_pos ⟨hs t hp, hp⟩)

/-- A doomed target blocks others in the end. -/
theorem blocks_of_doomed (h : p.Doomed s t) :
    Status.blocks ((skipBlocked p order s).get? t) = true := by
  have hpass {t d : String} (hw : p.Waits s t d)
      (hd : Status.blocks ((skipBlocked p order s).get? d) = true) :
      Status.blocks ((skipBlocked p order s).get? t) = true := by
    rw [eq_verdict_of_pending ho hs hw.1]
    rcases p.verdict_cases (skipBlocked p order s) t with ⟨-, hnone⟩ | ⟨d', -, hv⟩
    · cases (hnone d hw.2).symm.trans hd
    · rw [hv]
      rfl
  obtain ⟨f, hchain, hf⟩ := h
  -- from the end of the chain, whose status stays as it was
  induction hchain using Relation.TransGen.head_induction_on with
  | single hw =>
    refine hpass hw ?_
    rwa [skipBlocked_of_ne (ne_pending_of_blocks hf)]
  | head hw _ ih => exact hpass hw ih

/-- Doomed targets are skipped, for the first dependency that has failed or was skipped in the
end. -/
theorem skipped_of_doomed (h : p.Doomed s t) :
    ∃ d, (p.dependencies t).find? (fun d => Status.blocks ((skipBlocked p order s).get? d)) =
        some d ∧
      (skipBlocked p order s).get? t = some (.skipped (.dependency d)) := by
  have hblocks := blocks_of_doomed ho hs h
  rw [eq_verdict_of_pending ho hs h.pending] at hblocks ⊢
  rcases p.verdict_cases (skipBlocked p order s) t with ⟨hv, -⟩ | ⟨d, hfind, hv⟩
  · rw [hv] at hblocks
    cases hblocks
  · exact ⟨d, hfind, congrArg some hv⟩

end Once

/-- To go through an order once skips what is doomed and nothing else, whatever the statuses of its
targets are, if each target stands in it behind its dependencies. In the end no pending target
depends on one that failed or was skipped, be it through other pending ones. The targets whose
status has changed are the pending ones that so depended, before, on a target that had failed or was
skipped. Each of them is skipped, for the first of its dependencies that has failed or was skipped
in the end. The targets keep their places, and to go through the order once more changes nothing. -/
theorem skipBlocked_skips_doomed (p : Plan) {order : List String} {s : Listing Status}
    (ho : p.Follows order) (hs : ∀ t, s.get? t = some .pending → t ∈ order) :
    (∀ t, ¬ p.Doomed (skipBlocked p order s) t) ∧
    (∀ t, (skipBlocked p order s).get? t ≠ s.get? t ↔ p.Doomed s t) ∧
    (∀ t, p.Doomed s t → ∃ d,
      (p.dependencies t).find? (fun d => Status.blocks ((skipBlocked p order s).get? d)) =
          some d ∧
        (skipBlocked p order s).get? t = some (.skipped (.dependency d))) ∧
    (skipBlocked p order s).names = s.names ∧
    skipBlocked p order (skipBlocked p order s) = skipBlocked p order s := by
  refine ⟨fun t h => ?_, fun t => ⟨doomed_of_skipBlocked, fun h => ?_⟩,
    fun t => skipped_of_doomed ho hs, names_skipBlocked p order s,
    skipBlocked_of_not_blocks fun t ht hp d hd => not_blocks_of_skipBlocked ho ht hp hd⟩
  · obtain ⟨f, hchain, hf⟩ := h
    obtain ⟨b, -, hp, hd⟩ := Relation.TransGen.tail'_iff.1 hchain
    -- what is pending in the end was so before, so it stands in the order
    have hb : b ∈ order := by
      rcases get?_skipBlocked p order s b with hsame | ⟨hb, -⟩
      · exact hs b (hsame ▸ hp)
      · exact hb
    cases (not_blocks_of_skipBlocked ho hb hp hd).symm.trans hf
  · obtain ⟨d, -, hd⟩ := skipped_of_doomed ho hs h
    rw [hd, h.pending]
    exact fun heq => by cases heq

/-- Statuses of the targets in layers, of which one has failed that others depend on. -/
def Sample.halfway : Listing Status :=
  .ofList
    [("ground", .completed), ("side", .pending),
      ("outside", .failed ⟨"outside", "db1", "create login", .io "logins.sql" "not found"⟩),
      ("middle", .pending), ("lone", .running), ("top", .pending)]

/-- In the sample the top is doomed through the middle, which depends on what has failed, and is
skipped for it. -/
theorem skipBlocked_skips_doomed_sample :
    Plan.Sample.layers.order ["top", "side", "middle", "lone", "outside", "ground"] =
      .ok ["ground", "side", "outside", "middle", "lone", "top"] ∧
    Plan.Sample.layers.Doomed Sample.halfway "top" ∧
    (skipBlocked Plan.Sample.layers ["ground", "side", "outside", "middle", "lone", "top"]
      Sample.halfway).get? "top" = some (.skipped (.dependency "middle")) ∧
    ¬ Plan.Sample.layers.Doomed Sample.halfway "side" := by
  have hhas : ∀ name ∈ ["top", "side", "middle", "lone", "outside", "ground"],
      Plan.Sample.layers.has name = true := by decide
  have ho : Plan.Sample.layers.order ["top", "side", "middle", "lone", "outside", "ground"] =
      .ok ["ground", "side", "outside", "middle", "lone", "top"] := by decide +kernel
  have hs : ∀ t, Sample.halfway.get? t = some .pending →
      t ∈ ["ground", "side", "outside", "middle", "lone", "top"] := fun t ht =>
    (Sample.halfway.isSome_get? t).1 (ht ▸ rfl)
  have hmiddle : Plan.Sample.layers.Doomed Sample.halfway "middle" :=
    Plan.Waits.doomed ⟨by decide, by decide⟩ (.inl (by decide : Status.blocks
      (Sample.halfway.get? "outside") = true))
  have htop : Plan.Sample.layers.Doomed Sample.halfway "top" :=
    Plan.Waits.doomed ⟨by decide, by decide⟩ (.inr hmiddle)
  obtain ⟨-, hchanged, hskipped, -⟩ := skipBlocked_skips_doomed Plan.Sample.layers
    (Plan.ordered_of_order hhas ho).1.follows hs
  obtain ⟨d, hfind, hd⟩ := hskipped "top" htop
  refine ⟨ho, htop, ?_, fun h => (hchanged "side").2 h (by decide +kernel)⟩
  cases hfind.symm.trans (by decide +kernel : _ = some "middle")
  exact hd

end Rollout
