import Rollout.Proofs.Run.Skipping

/-!
# How statuses change

A pass sweeps the pending targets of a cancelled run, skips the blocked ones and launches the ready
ones. For each of the three stages this file says what becomes of the status of a target, and what
the stage leaves behind: after the sweep nothing is pending (`status_notice`), after the skipping no
pending target is blocked, which is `not_blocks_of_skipBlocked` of the statuses by themselves, and
after the launches no pending target is ready unless there is no room (`saturated_launch`). A target
that is not pending is not touched by a pass at all (`status_pass_of_ne`); its status changes only
when it ends (`status_goOn_ended`).
-/

namespace Rollout

namespace Status

/-- Whether a target has been launched. -/
def hasBegun : Status → Bool
  | running => true
  | completed => true
  | failed _ => true
  | _ => false

end Status

/-- The status of a target in a run. -/
def Run.status (r : Run) (t : String) : Option Status :=
  r.statuses.get? t

namespace Run

variable {r : Run} {t : String}

@[simp] theorem status_settle (r : Run) (t : String) : r.settle.status t = r.status t :=
  rfl

/-- A run that has begun nothing has every target of its order pending. -/
theorem status_start {order : List String} (hn : order.Nodup) (cancelled : Bool) (t : String) :
    (start order cancelled).status t = if t ∈ order then some .pending else none := by
  have he : (start order cancelled).statuses.entries =
      order.map fun name => (name, Status.pending) :=
    Listing.entries_ofList (by simpa [Function.comp_def] using hn)
  split
  · rename_i ht
    rw [status, Listing.get?_eq_some_iff, he]
    exact List.mem_map.2 ⟨t, ht, rfl⟩
  · rename_i ht
    rw [status, ← Option.not_isSome_iff_eq_none, Listing.isSome_get?, Listing.names, he]
    simpa [Function.comp_def] using ht

/-- In a run that has begun nothing every target is pending. -/
theorem eq_pending_of_start {order : List String} (hn : order.Nodup) {cancelled : Bool} {s : Status}
    (hs : (start order cancelled).status t = some s) : s = .pending := by
  rw [status_start hn] at hs
  split at hs <;> cases hs
  rfl

theorem names_start {order : List String} (hn : order.Nodup) (cancelled : Bool) :
    (start order cancelled).statuses.names = order := by
  have he : (start order cancelled).statuses.entries =
      order.map fun name => (name, Status.pending) :=
    Listing.entries_ofList (by simpa [Function.comp_def] using hn)
  simp [Listing.names, he, Function.comp_def]

/-- A noticed cancellation sweeps every pending target away, and leaves the others. -/
theorem status_notice (r : Run) (t : String) :
    r.notice.status t =
      if r.noticed = false ∧ r.journal.cancelled = true ∧ r.status t = some .pending then
        some (.skipped .cancelled)
      else r.status t := by
  have hmap : ∀ f : String → Status → Status,
      ({ r with statuses := r.statuses.map f, noticed := true } : Run).status t =
        (r.status t).map (f t) := fun f => Listing.get?_map f r.statuses t
  unfold notice
  by_cases hn : (!r.noticed && r.journal.cancelled) = true
  · rw [if_pos hn, hmap]
    obtain ⟨hno, hc⟩ : r.noticed = false ∧ r.journal.cancelled = true := by simpa using hn
    rcases r.status t with _ | s
    · simp
    · by_cases hs : s = .pending <;> simp [hno, hc, hs]
  · -- nothing is noticed now, be it that there is no cancellation or that it was noticed before
    rw [if_neg hn, if_neg]
    rintro ⟨hno, hc, -⟩
    simp [hno, hc] at hn

theorem names_notice (r : Run) : r.notice.statuses.names = r.statuses.names := by
  unfold notice
  split
  · exact Listing.names_map _ _
  · rfl

/-- Without a cancellation there is none to notice. -/
theorem notice_of_not_cancelled (h : r.journal.cancelled = false) : r.notice = r := by
  simp [notice, h]

end Run

namespace Runner

variable {x : Runner} {r : Run} {t : String}

/-- What skipping does to a target of a run: nothing, or the target was pending and is now skipped
for a dependency that has failed or was skipped. -/
theorem status_skip (x : Runner) (r : Run) (t : String) :
    (x.skip r).status t = r.status t ∨
      r.status t = some .pending ∧ ∃ d ∈ x.plan.dependencies t,
        (x.skip r).status t = some (.skipped (.dependency d)) ∧
        Status.blocks ((x.skip r).status d) = true :=
  (get?_skipBlocked x.plan r.statuses.names r.statuses t).imp_right And.right

/-- Skipping touches no target of a run that is not pending. -/
theorem status_skip_of_ne (x : Runner) {s : Status} (h : r.status t = some s) (hs : s ≠ .pending) :
    (x.skip r).status t = some s :=
  (skipBlocked_of_ne fun hp => hs (Option.some.inj (h.symm.trans hp))).trans h

/-! ## Launching -/

/-- A target is ready if it is pending and all its dependencies have completed. -/
theorem isReady_iff (x : Runner) (r : Run) (t : String) :
    x.isReady r t = true ↔
      r.status t = some .pending ∧ ∀ d ∈ x.plan.dependencies t, r.status d = some .completed := by
  simp [isReady, Run.isPending, Run.status]

theorem status_launchOne (x : Runner) (r : Run) (name t : String) :
    (x.launchOne r name).status t = if name = t then some .running else r.status t :=
  Listing.get?_put r.statuses name t .running

/-- Launching a pending target touches no target that is not pending. -/
theorem status_launchOne_of_ne {name : String} (hn : r.status name = some .pending)
    (h : r.status t ≠ some .pending) : (x.launchOne r name).status t = r.status t := by
  rw [status_launchOne, if_neg]
  rintro rfl
  exact h hn

/-- The launch of a target makes no target ready. -/
theorem not_isReady_launchOne {name : String} (h : x.isReady r t = false) :
    x.isReady (x.launchOne r name) t = false := by
  rw [Bool.eq_false_iff] at h ⊢
  refine fun hr => h ?_
  rw [isReady_iff] at hr ⊢
  obtain ⟨hp, hd⟩ := hr
  -- who is pending or completed after the launch was so before
  have hback : ∀ {d s}, (x.launchOne r name).status d = some s → s ≠ .running →
      r.status d = some s := by
    intro d s hs hne
    rw [status_launchOne] at hs
    split at hs
    · cases hs
      exact absurd rfl hne
    · exact hs
  exact ⟨hback hp (by simp), fun d hmem => hback (hd d hmem) (by simp)⟩

/-- What the launch of one ready target keeps, as long as there is room, all launches keep. -/
theorem launch_keeps {P : Run → Prop} (x : Runner)
    (hone : ∀ r name, P r → r.inFlight.length < x.limit → x.isReady r name = true →
      P (x.launchOne r name)) (names : List String) {r : Run} (h : P r) :
    P (x.launch names r) := by
  fun_induction launch x names r with
  | case1 => exact h
  | case2 name more r hready ih =>
    simp only [Bool.and_eq_true, decide_eq_true_eq] at hready
    exact ih (hone r name h hready.1 hready.2)
  | case3 _ _ _ _ ih => exact ih h

/-- Launches leave no target of the list ready unless they leave no room. -/
theorem saturated_launch (x : Runner) (names : List String) (r : Run) {t : String} (ht : t ∈ names)
    (hroom : (x.launch names r).inFlight.length < x.limit) :
    x.isReady (x.launch names r) t = false := by
  have hkeep : ∀ {names : List String} {r : Run}, x.isReady r t = false →
      x.isReady (x.launch names r) t = false := fun h =>
    launch_keeps (P := fun r => x.isReady r t = false) x
      (fun _ _ h _ _ => not_isReady_launchOne h) _ h
  have hgrow : ∀ (names : List String) (r : Run),
      r.inFlight.length ≤ (x.launch names r).inFlight.length := fun names r => by
    refine launch_keeps (P := fun r' => r.inFlight.length ≤ r'.inFlight.length) x ?_ names
      (Nat.le_refl _)
    intro r' name h _ _
    simp only [launchOne, List.length_append]
    omega
  fun_induction launch x names r with
  | case1 => cases ht
  | case2 name more r hready ih =>
    rcases List.mem_cons.1 ht with rfl | ht
    · -- a target that was launched is not ready
      refine hkeep (Bool.eq_false_iff.2 fun h => ?_)
      have := ((isReady_iff x _ t).1 h).1
      simp [status_launchOne] at this
    · exact ih ht hroom
  | case3 name more r hnot ih =>
    rcases List.mem_cons.1 ht with rfl | ht
    · -- there was room for the target, so it was not launched because it was not ready
      refine hkeep (Bool.eq_false_iff.2 fun h => hnot ?_)
      have := Nat.lt_of_le_of_lt (hgrow more r) hroom
      simp [h, this]
    · exact ih ht hroom

/-- What each stage of a pass keeps the pass keeps. -/
theorem pass_keeps {P : Run → Prop} (x : Runner) (hnotice : ∀ r, P r → P r.notice)
    (hskip : ∀ r, P r → P (x.skip r))
    (hlaunch : ∀ r name, P r → r.noticed = false → r.inFlight.length < x.limit →
      x.isReady r name = true → P (x.launchOne r name))
    (hsettle : ∀ r, P r → P r.settle) {r : Run} (h : P r) : P (x.pass r) := by
  refine hsettle _ ?_
  have hs := hskip _ (hnotice _ h)
  unfold fill
  split
  · exact hs
  · rename_i hn
    refine (launch_keeps (P := fun r => P r ∧ r.noticed = false) x ?_ _
      ⟨hs, Bool.eq_false_iff.2 hn⟩).1
    exact fun r name ⟨hr, hf⟩ hroom hready => ⟨hlaunch r name hr hf hroom hready, hf⟩

/-- Of a target that is not pending once a cancellation was noticed the rest of a pass leaves the
status as it is. -/
theorem status_pass_of_notice (x : Runner) {s : Status} (h : r.notice.status t = some s)
    (hs : s ≠ .pending) : (x.pass r).status t = some s := by
  have hskip := x.status_skip_of_ne h hs
  simp only [pass, Run.status_settle, fill]
  split
  · exact hskip
  · refine launch_keeps (P := fun r => r.status t = some s) x (fun r name h _ hr => ?_) _ hskip
    have hp := ((x.isReady_iff r name).1 hr).1
    exact (status_launchOne_of_ne hp (by simp [h, hs])).trans h

/-- A pass touches no target that is not pending. -/
theorem status_pass_of_ne (x : Runner) {s : Status} (h : r.status t = some s) (hs : s ≠ .pending) :
    (x.pass r).status t = some s := by
  refine x.status_pass_of_notice ?_ hs
  rw [Run.status_notice, if_neg (by simp [h, hs]), h]

end Runner

/-! ## Going on -/

namespace Run

/-- The end of a target gives it the status of its result and leaves the others as they are. -/
theorem status_goOn_ended (r : Run) (before after : Queue) (target : String) (j : Journal)
    (result : Except TargetError Unit) (t : String) :
    (r.goOn before target after (j, .ended result)).status t =
      if target = t then some (.ofResult result) else r.status t :=
  Listing.get?_put r.statuses target t (.ofResult result)

end Run

end Rollout
