import Rollout.Proofs.Run.Moments

/-!
# The invariant of a run

`Run.Valid` holds at every moment of a run (`valid_moment`): the names are those of the order, the
running targets are those in flight, a noticed cancellation leaves nothing pending, and whatever was
launched has only completed dependencies. `Run.Settled` says what the last pass has left behind:
unless something has ended since, no pending target is blocked, and none is ready where there is
room. It holds at every moment too, for a run begins with a pass that is due.
-/

namespace Rollout

variable {x : Runner} {order : List String} {r : Run}

namespace Run

/-- What holds at every moment of a run. -/
structure Valid (x : Runner) (order : List String) (r : Run) : Prop where
  names : r.statuses.names = order
  /-- A target is running if and only if it is in flight. -/
  flying : ∀ t, r.status t = some .running ↔ t ∈ r.inFlight.map Flight.target
  distinct : (r.inFlight.map Flight.target).Nodup
  /-- A cancellation that was noticed has been there, and has left nothing pending. -/
  swept : r.noticed = true → r.journal.cancelled = true ∧ ∀ t, r.status t ≠ some .pending
  /-- The dependencies of a target that was launched have completed. -/
  begun : ∀ t s, r.status t = some s → s.hasBegun = true →
    ∀ d ∈ x.plan.dependencies t, r.status d = some .completed

/-- A target has a status if and only if it stands in the order. -/
theorem Valid.isSome_status (h : r.Valid x order) (t : String) :
    (r.status t).isSome ↔ t ∈ order := by
  rw [← h.names]
  exact r.statuses.isSome_get? t

/-- Only the targets of the order have a status. -/
theorem Valid.mem_of_status (h : r.Valid x order) {t : String} {s : Status}
    (hs : r.status t = some s) : t ∈ order :=
  (h.isSome_status t).1 (by simp [hs])

/-- Every other target in flight is another one. -/
theorem Valid.others (h : r.Valid x order) {before after : Queue} {f : Flight}
    (hq : r.inFlight = before ++ f :: after) :
    f.target ∉ (before ++ after).map Flight.target ∧
      ((before ++ after).map Flight.target).Nodup := by
  have hdist := h.distinct
  rw [hq, (List.perm_middle.map Flight.target).nodup_iff] at hdist
  exact List.nodup_cons.1 hdist

/-- No target is in flight twice. -/
theorem Valid.target_ne (h : r.Valid x order) {before after : Queue} {f g : Flight}
    (hq : r.inFlight = before ++ f :: after) (hg : g ∈ before ++ after) : f.target ≠ g.target :=
  fun he => (h.others hq).1 (he ▸ List.mem_map_of_mem hg)

/-- Without a cancellation none was noticed. -/
theorem Valid.not_noticed (h : r.Valid x order) (hc : r.journal.cancelled = false) :
    r.noticed = false :=
  Bool.eq_false_iff.2 fun hn => Bool.eq_false_iff.1 hc (h.swept hn).1

/-- Where a target is pending no cancellation was noticed. -/
theorem Valid.not_noticed_of_pending (h : r.Valid x order) {t : String}
    (hp : r.status t = some .pending) : r.noticed = false :=
  Bool.eq_false_iff.2 fun hn => (h.swept hn).2 t hp

/-- The target of a flight is running. -/
theorem Valid.running (h : r.Valid x order) {before after : Queue} {f : Flight}
    (hq : r.inFlight = before ++ f :: after) : r.status f.target = some .running :=
  (h.flying _).2 (by simp [hq])

namespace Valid

/-- A run that has begun nothing is valid. -/
theorem start (x : Runner) (hn : order.Nodup) (cancelled : Bool) :
    (start order cancelled).Valid x order where
  names := names_start hn cancelled
  flying t := by
    rw [status_start hn]
    simp only [Run.start, List.map_nil, List.not_mem_nil, iff_false]
    split <;> simp
  distinct := List.nodup_nil
  swept h := by cases h
  begun t s hs hb := by
    rw [status_start hn] at hs
    split at hs <;> cases hs
    cases hb

/-- To settle a pass changes no status and nothing in flight. -/
theorem settle (h : r.Valid x order) : r.settle.Valid x order where
  names := h.names
  flying := h.flying
  distinct := h.distinct
  swept := h.swept
  begun := h.begun

/-- A cancellation changes nothing but the journal. -/
theorem cancel (h : r.Valid x order) : r.cancel.Valid x order where
  names := h.names
  flying := h.flying
  distinct := h.distinct
  swept hn := ⟨by simp [Run.cancel, Journal.pause], (h.swept hn).2⟩
  begun := h.begun

/-- If only pending targets change their status, and none of them is launched, what was launched
keeps its completed dependencies. -/
theorem of_skipped {r' : Run} (h : r.Valid x order) (hq : r'.inFlight = r.inFlight)
    (hn : r'.statuses.names = r.statuses.names)
    (hs : ∀ t, r'.status t = r.status t ∨
      r.status t = some .pending ∧ ∃ reason, r'.status t = some (.skipped reason))
    (hsw : r'.noticed = true →
      r'.journal.cancelled = true ∧ ∀ t, r'.status t ≠ some .pending) :
    r'.Valid x order where
  names := hn.trans h.names
  flying t := by
    rw [hq, ← h.flying t]
    rcases hs t with hs | ⟨hp, reason, hs⟩
    · rw [hs]
    · simp [hp, hs]
  distinct := hq ▸ h.distinct
  swept := hsw
  begun t s ht hb d hd := by
    -- a target that was launched is not one of those that were skipped
    have hbefore : r.status t = some s := by
      rcases hs t with hs | ⟨-, reason, hs⟩
      · exact hs ▸ ht
      · rw [ht] at hs
        cases hs
        cases hb
    have hdone := h.begun t s hbefore hb d hd
    rcases hs d with hs | ⟨hp, -⟩
    · exact hs.trans hdone
    · rw [hp] at hdone
      cases hdone

/-- The sweep of a cancellation skips pending targets only. -/
theorem notice (h : r.Valid x order) : r.notice.Valid x order := by
  obtain ⟨hj, hn, -⟩ := Runner.notice_frame r
  refine h.of_skipped (Runner.inFlight_notice r) r.names_notice (fun t => ?_) fun hnot => ?_
  · rw [status_notice]
    split
    · rename_i hc
      exact .inr ⟨hc.2.2, _, rfl⟩
    · exact .inl rfl
  · rw [hn] at hnot
    have hc : r.journal.cancelled = true := by
      cases hrn : r.noticed with
      | true => exact (h.swept hrn).1
      | false => simpa [hrn] using hnot
    refine ⟨hj ▸ hc, fun t ht => ?_⟩
    rw [status_notice] at ht
    split at ht
    · cases ht
    · rename_i hno
      cases hrn : r.noticed with
      | true => exact (h.swept hrn).2 t ht
      | false => exact hno ⟨hrn, hc, ht⟩

/-- A target that is skipped for a dependency was pending. -/
theorem skip (h : r.Valid x order) : (x.skip r).Valid x order := by
  refine h.of_skipped rfl (names_skipBlocked _ _ _) (fun t => ?_) fun hn => ?_
  · rcases x.status_skip r t with hs | ⟨hp, d, -, hs, -⟩
    · exact .inl hs
    · exact .inr ⟨hp, _, hs⟩
  · refine ⟨(h.swept hn).1, fun t ht => ?_⟩
    rcases x.status_skip r t with hs | ⟨-, d, -, hs, -⟩
    · exact (h.swept hn).2 t (hs.symm.trans ht)
    · cases hs.symm.trans ht

/-- A target that is launched runs and is in flight from then on. -/
theorem launchOne {name : String} (h : r.Valid x order) (hn : r.noticed = false)
    (hr : x.isReady r name = true) : (x.launchOne r name).Valid x order := by
  obtain ⟨hp, hd⟩ := (x.isReady_iff r name).1 hr
  have hstatus := x.status_launchOne r name
  have hmem : name ∈ r.statuses.names := by
    rw [h.names]
    exact h.mem_of_status hp
  have hkept : ∀ t, r.status t = some .completed →
      (x.launchOne r name).status t = some .completed := fun t ht =>
    (Runner.status_launchOne_of_ne hp (by simp [ht])).trans ht
  refine ⟨(Listing.names_put_of_mem hmem _).trans h.names, fun t => ?_, ?_, ?_, ?_⟩
  · rw [hstatus]
    by_cases he : name = t
    · simp [he, Runner.launchOne]
    · simp [he, Ne.symm he, Runner.launchOne, h.flying t]
  · -- a pending target is not in flight yet
    have hout : name ∉ r.inFlight.map Flight.target := fun hm => by
      have := (h.flying name).2 hm
      rw [hp] at this
      cases this
    simp only [Runner.launchOne, List.map_append, List.map_cons, List.map_nil]
    exact List.nodup_append.2 ⟨h.distinct, by simp, fun a ha b hb he =>
      hout (by simp_all)⟩
  · intro hnot
    exact absurd (hn.symm.trans hnot) (by simp)
  · -- the dependencies of the new target have completed, or it would not be ready
    intro t s ht hb d hdep
    rw [hstatus] at ht
    split at ht
    · rename_i he
      exact hkept d (hd d (he ▸ hdep))
    · exact hkept d (h.begun t s ht hb d hdep)

/-- The end of a target in flight keeps a run valid. -/
theorem goOn_ended {before after : Queue} {f : Flight} {j : Journal} (h : r.Valid x order)
    (hq : r.inFlight = before ++ f :: after)
    (hc : r.journal.cancelled = true → j.cancelled = true) (result : Except TargetError Unit) :
    (r.goOn before f.target after (j, .ended result)).Valid x order := by
  have hrun := h.running hq
  obtain ⟨hout, hrest⟩ := h.others hq
  have hmem : f.target ∈ r.statuses.names := by
    rw [h.names]
    exact h.mem_of_status hrun
  have hstatus := r.status_goOn_ended before after f.target j result
  -- the target was running, so whatever has completed is another one
  have hkept : ∀ t, r.status t = some .completed →
      (r.goOn before f.target after (j, .ended result)).status t = some .completed := by
    intro t ht
    rw [hstatus, if_neg, ht]
    rintro rfl
    cases hrun.symm.trans ht
  refine ⟨(Listing.names_put_of_mem hmem _).trans h.names, fun t => ?_, hrest, fun hn => ?_, ?_⟩
  · rw [hstatus]
    by_cases he : f.target = t
    · subst he
      have : Status.ofResult result ≠ .running := by cases result <;> simp [Status.ofResult]
      simpa [Run.goOn, this] using hout
    · simp [he, Ne.symm he, Run.goOn, h.flying t, hq]
  · refine ⟨hc (h.swept hn).1, fun t ht => ?_⟩
    rw [hstatus] at ht
    split at ht
    · exact Status.ofResult_ne_pending result (Option.some.inj ht)
    · exact (h.swept hn).2 t ht
  · intro t s ht hb d hd
    rw [hstatus] at ht
    split at ht
    · rename_i he
      exact hkept d (h.begun _ _ hrun rfl d (he ▸ hd))
    · exact hkept d (h.begun t s ht hb d hd)

/-- A target that stays in flight keeps a run valid. -/
theorem goOn_left {before after : Queue} {f : Flight} {j : Journal} (h : r.Valid x order)
    (hq : r.inFlight = before ++ f :: after)
    (hc : r.journal.cancelled = true → j.cancelled = true) (work : Work TargetError Unit) :
    (r.goOn before f.target after (j, .left work)).Valid x order := by
  have hperm : ((Queue.goOn before ⟨f.target, work⟩ after).map Flight.target).Perm
      (r.inFlight.map Flight.target) := by
    rw [hq]
    refine ((Queue.goOn_perm before ⟨f.target, work⟩ after).map _).trans ?_
    have hmid : (f :: (before ++ after)).Perm (before ++ f :: after) := List.perm_middle.symm
    simpa using hmid.map Flight.target
  exact ⟨h.names, fun t => (h.flying t).trans hperm.mem_iff.symm, hperm.nodup_iff.2 h.distinct,
    fun hn => ⟨hc (h.swept hn).1, (h.swept hn).2⟩, h.begun⟩

/-- A step of a target in flight keeps a run valid. -/
theorem goOn {before after : Queue} {f : Flight} (h : r.Valid x order)
    (hq : r.inFlight = before ++ f :: after) :
    (r.goOn before f.target after (f.work.step x.world f.target r.journal)).Valid x order := by
  have hc : r.journal.cancelled = true →
      (f.work.step x.world f.target r.journal).1.cancelled = true :=
    fun h => Work.cancelled_step h f.work
  generalize f.work.step x.world f.target r.journal = s at hc
  obtain ⟨j, result | work⟩ := s
  · exact h.goOn_ended hq hc result
  · exact h.goOn_left hq hc work

theorem pass (h : r.Valid x order) : (x.pass r).Valid x order :=
  x.pass_keeps (fun _ h => h.notice) (fun _ h => h.skip)
    (fun _ _ h hn _ hr => h.launchOne hn hr) (fun _ h => h.settle) h

theorem next {r' : Run} (h : r.Valid x order) (hr : x.Next r r') : r'.Valid x order := by
  cases hr with
  | cancel => exact h.cancel
  | pass _ => exact h.pass
  | goOn _ hq => exact h.goOn hq

end Valid

/-- No pending target has a dependency that failed or was skipped. -/
def Unblocked (x : Runner) (r : Run) : Prop :=
  ∀ t, r.status t = some .pending →
    ∀ d ∈ x.plan.dependencies t, Status.blocks (r.status d) = false

/-- Skipping in a topological order leaves no pending target blocked. -/
theorem Valid.unblocked_skip (h : r.Valid x order) (ho : x.plan.Ordered order) :
    (x.skip r).Unblocked x := by
  intro t ht d hd
  have hmem : t ∈ r.statuses.names := by
    rw [h.names]
    exact h.skip.mem_of_status ht
  exact not_blocks_of_skipBlocked (h.names.symm ▸ ho.follows) hmem ht hd

/-- Launches block nothing. -/
theorem Unblocked.launch (h : r.Unblocked x) (names : List String) :
    (x.launch names r).Unblocked x := by
  refine Runner.launch_keeps (P := Unblocked x) x (fun r name h _ _ t ht d hd => ?_) names h
  rw [Runner.status_launchOne] at ht ⊢
  split at ht
  · cases ht
  · split
    · rfl
    · exact h t ht d hd

theorem Unblocked.fill (h : r.Unblocked x) : (x.fill r).Unblocked x := by
  unfold Runner.fill
  split
  · exact h
  · exact h.launch _

/-- What the last pass has left behind, as long as nothing has ended since: no pending target is
blocked, and none is ready if there is room. -/
structure Settled (x : Runner) (r : Run) : Prop where
  unblocked : r.stale = false → r.Unblocked x
  saturated : r.stale = false → r.inFlight.length < x.limit → ∀ t, x.isReady r t = false

/-- The launches of a pass leave no target ready unless they leave no room. -/
theorem Valid.saturated_fill (h : r.Valid x order) (hroom : (x.fill r).inFlight.length < x.limit)
    {t : String} (ht : t ∈ order) : x.isReady (x.fill r) t = false := by
  unfold Runner.fill at hroom ⊢
  split
  · -- the cancellation has left nothing pending
    refine Bool.eq_false_iff.2 fun hready => ?_
    exact (h.swept ‹_›).2 t ((x.isReady_iff _ t).1 hready).1
  · rename_i hn
    rw [if_neg hn] at hroom
    apply Runner.saturated_launch x _ _ _ hroom
    rwa [h.names]

namespace Settled

/-- A pass over targets in a topological order settles a run. -/
theorem pass (hv : r.Valid x order) (ho : x.plan.Ordered order) : (x.pass r).Settled x := by
  constructor
  · intro _
    exact (hv.notice.unblocked_skip ho).fill
  · intro _ hroom t
    refine Bool.eq_false_iff.2 fun hready => ?_
    -- a target that is ready is pending, so it stands in the order
    have hpend := ((x.isReady_iff _ t).1 hready).1
    have ht : t ∈ order := (hv.pass (x := x)).mem_of_status hpend
    have hsat : x.isReady (x.pass r) t = false := hv.notice.skip.saturated_fill hroom ht
    rw [hready] at hsat
    cases hsat

/-- A run stays settled until a target ends. -/
theorem next {r' : Run} (h : r.Settled x) (hv : r.Valid x order) (ho : x.plan.Ordered order)
    (hr : x.Next r r') : r'.Settled x := by
  cases hr with
  | cancel => exact ⟨h.unblocked, h.saturated⟩
  | pass _ => exact pass hv ho
  | @goOn before after f _ hq =>
    generalize f.work.step x.world f.target r.journal = s
    obtain ⟨j, result | work⟩ := s
    · -- the target ends, and a pass is due again
      exact ⟨fun hs => (by cases hs), fun hs => (by cases hs)⟩
    · refine ⟨h.unblocked, fun hs hroom => h.saturated hs ?_⟩
      rw [hq, List.perm_middle.length_eq]
      exact (Queue.goOn_perm before ⟨f.target, work⟩ after).length_eq ▸ hroom

end Settled

end Run

namespace Runner

variable {i : Interleaving} {cancelled : Bool}

/-- A run is valid and settled at every moment. -/
theorem valid_moment (ho : x.plan.Ordered order) (n : Nat) :
    (x.moment i order cancelled n).Valid x order ∧ (x.moment i order cancelled n).Settled x := by
  refine moment_keeps (P := fun r => r.Valid x order ∧ r.Settled x)
    ⟨.start x ho.nodup cancelled, fun h => ?_, fun h => ?_⟩
    (fun ⟨hv, hs⟩ hr => ⟨hv.next hr, hs.next hv ho hr⟩) n
  · cases h
  · cases h

/-- A run is valid and settled when it is over. -/
theorem valid_ended (ho : x.plan.Ordered order) :
    (x.ended i order cancelled).Valid x order ∧ (x.ended i order cancelled).Settled x := by
  obtain ⟨n, hn, -⟩ := exists_moment_loop x i order cancelled
  exact hn ▸ valid_moment ho n

end Runner

end Rollout
