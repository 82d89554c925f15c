import Rollout.Proofs.Run.Precedence

/-!
# What skipped targets are skipped for

A target is skipped for a cancellation or for one of its dependencies, and the dependency that it
blames has failed or blames another one itself (`Run.Blaming`): the sweep of a cancellation leaves
nothing pending, so no target is skipped for one that the sweep has skipped. As dependencies do not
run in a circle, whoever follows the blame comes to a target that has failed (`exists_failed`).
-/

namespace Rollout

variable {x : Runner} {order : List String} {i : Interleaving} {cancelled : Bool} {r r' : Run}
  {t d : String}

namespace Run

/-- A target is skipped for another one. -/
def Blames (r : Run) (t d : String) : Prop :=
  r.status t = some (.skipped (.dependency d))

/-- A target may be blamed if it has failed or blames another one. -/
def IsBlamable (r : Run) (d : String) : Prop :=
  (∃ e, r.status d = some (.failed e)) ∨ ∃ d', r.Blames d d'

/-- What may be blamed has ended. -/
theorem IsBlamable.exists_terminal (h : r.IsBlamable d) :
    ∃ s, r.status d = some s ∧ s.isTerminal = true := by
  rcases h with ⟨e, he⟩ | ⟨d', hd'⟩
  · exact ⟨_, he, rfl⟩
  · exact ⟨_, hd', rfl⟩

/-- Whether a target may be blamed depends on its status only. -/
theorem IsBlamable.of_status (h : r.IsBlamable d) (hs : r'.status d = r.status d) :
    r'.IsBlamable d :=
  h.imp (fun ⟨e, he⟩ => ⟨e, hs.trans he⟩) fun ⟨d', hd'⟩ => ⟨d', hs.trans hd'⟩

/-- A run in which whoever is skipped for a dependency blames a target that may be blamed. No
target is skipped for a cancellation that was not noticed. -/
structure Blaming (x : Runner) (r : Run) : Prop where
  unswept : r.noticed = false → ∀ t, r.status t ≠ some (.skipped .cancelled)
  blamed : ∀ t d, r.Blames t d → d ∈ x.plan.dependencies t ∧ r.IsBlamable d

namespace Blaming

/-- At the start nothing is skipped. -/
theorem start (hn : order.Nodup) (cancelled : Bool) : (Run.start order cancelled).Blaming x where
  unswept _ _ ht := nomatch eq_pending_of_start hn ht
  blamed _ _ ht := nomatch eq_pending_of_start hn ht

/-- If what has ended stays as it is, it is enough to look at the targets that were skipped. -/
theorem of_terminal (h : r.Blaming x)
    (hkeep : ∀ t s, r.status t = some s → s.isTerminal = true → r'.status t = some s)
    (hunswept : r'.noticed = false → ∀ t, r'.status t ≠ some (.skipped .cancelled))
    (hnew : ∀ t d, r'.Blames t d →
      r.Blames t d ∨ d ∈ x.plan.dependencies t ∧ r'.IsBlamable d) : r'.Blaming x where
  unswept := hunswept
  blamed t d ht := by
    rcases hnew t d ht with ht | ht
    · obtain ⟨hd, hb⟩ := h.blamed t d ht
      obtain ⟨s, hs, hterm⟩ := hb.exists_terminal
      exact ⟨hd, hb.of_status ((hkeep d s hs hterm).trans hs.symm)⟩
    · exact ht

/-- The sweep of a cancellation skips targets for it and for no dependency. -/
theorem notice (h : r.Blaming x) : r.notice.Blaming x := by
  refine h.of_terminal (fun t s hs hterm => ?_) (fun hn t ht => ?_) fun t d ht => .inl ?_
  · rw [status_notice, if_neg, hs]
    rintro ⟨-, -, hp⟩
    cases hs.symm.trans hp
    cases hterm
  · -- nothing is noticed, so nothing was swept
    rw [(Runner.notice_frame r).2.1, Bool.or_eq_false_iff] at hn
    rw [status_notice, if_neg (by simp [hn.2])] at ht
    exact h.unswept hn.1 t ht
  · rw [Blames, status_notice] at ht
    split at ht
    · cases ht
    · exact ht

/-- A dependency for which a pending target is skipped may be blamed: it was not swept, or the
target would have been too. -/
theorem skip (h : r.Blaming x) (hv : r.Valid x order) : (x.skip r).Blaming x := by
  have hunswept : r.noticed = false → ∀ t, (x.skip r).status t ≠ some (.skipped .cancelled) := by
    intro hn t ht
    rcases x.status_skip r t with he | ⟨-, d, -, he, -⟩
    · exact h.unswept hn t (he.symm.trans ht)
    · cases he.symm.trans ht
  refine h.of_terminal (fun t s ht hterm => x.status_skip_of_ne ht ?_) hunswept fun t d ht => ?_
  · rintro rfl
    cases hterm
  · rcases x.status_skip r t with he | ⟨hp, d', hd', he, hb⟩
    · exact .inl (he.symm.trans ht)
    · cases he.symm.trans ht
      refine .inr ⟨hd', ?_⟩
      cases hds : (x.skip r).status d with
      | none =>
        rw [hds] at hb
        cases hb
      | some s =>
        rw [hds] at hb
        cases s with
        | pending => cases hb
        | running => cases hb
        | completed => cases hb
        | failed e => exact .inl ⟨e, hds⟩
        | skipped reason =>
          cases reason with
          | dependency d' => exact .inr ⟨d', hds⟩
          | cancelled => exact absurd hds (hunswept (hv.not_noticed_of_pending hp) d)

/-- Neither the launch nor the end of a target skips any. -/
theorem of_unskipped {f : String} {s : Status} (h : r.Blaming x)
    (hf : ∃ s, r.status f = some s ∧ s.isTerminal = false)
    (hs : ∀ t, r'.status t = if f = t then some s else r.status t)
    (hne : ∀ reason, s ≠ .skipped reason) (hn : r'.noticed = r.noticed) : r'.Blaming x := by
  have hback : ∀ t reason, r'.status t = some (.skipped reason) →
      r.status t = some (.skipped reason) := by
    intro t reason ht
    rw [hs] at ht
    split at ht
    · exact absurd (Option.some.inj ht) (hne reason)
    · exact ht
  refine h.of_terminal (fun t s' ht hterm => ?_) (fun hno t ht => ?_) fun t d ht => .inl ?_
  · rw [hs, if_neg, ht]
    rintro rfl
    obtain ⟨s'', hs'', hrun⟩ := hf
    cases ht.symm.trans hs''
    cases hterm.symm.trans hrun
  · exact h.unswept (hn.symm.trans hno) t (hback t _ ht)
  · exact hback t _ ht

/-- Whatever a run does next, the blame stays true. -/
theorem next (h : r.Blaming x) (hv : r.Valid x order) (hr : x.Next r r') : r'.Blaming x := by
  cases hr with
  | cancel => exact ⟨h.unswept, h.blamed⟩
  | pass _ =>
    refine (x.pass_keeps (P := fun r => r.Valid x order ∧ r.Blaming x)
      (fun r ⟨hv, h⟩ => ⟨hv.notice, h.notice⟩) (fun r ⟨hv, h⟩ => ⟨hv.skip, h.skip hv⟩)
      (fun r name ⟨hv, h⟩ hn _ hready => ⟨hv.launchOne hn hready, ?_⟩)
      (fun r ⟨hv, h⟩ => ⟨hv.settle, h.unswept, h.blamed⟩) ⟨hv, h⟩).2
    have hp := ((x.isReady_iff r name).1 hready).1
    exact h.of_unskipped ⟨_, hp, rfl⟩ (x.status_launchOne r name) (by simp) rfl
  | @goOn before after f _ hq =>
    generalize f.work.step x.world f.target r.journal = s
    obtain ⟨j, result | work⟩ := s
    · exact h.of_unskipped ⟨_, hv.running hq, rfl⟩ (r.status_goOn_ended before after f.target j _)
        (by cases result <;> simp [Status.ofResult]) rfl
    · exact ⟨h.unswept, h.blamed⟩

/-- Whoever follows the blame from a target that is skipped for a dependency comes to one that has
failed. -/
theorem exists_failed (h : r.Blaming x) (hv : r.Valid x order) (ho : x.plan.Runnable order)
    (ht : r.Blames t d) :
    ∃ f e, Relation.TransGen r.Blames t f ∧ r.status f = some (.failed e) := by
  -- along the order: a target that is blamed stands before the one that blames it
  refine ho.induction (P := fun t => ∀ d, r.Blames t d →
    ∃ f e, Relation.TransGen r.Blames t f ∧ r.status f = some (.failed e))
    (fun t _ ih d ht => ?_) t (hv.mem_of_status ht) d ht
  obtain ⟨hd, ⟨e, he⟩ | ⟨d', hd'⟩⟩ := h.blamed t d ht
  · exact ⟨d, e, .single ht, he⟩
  · obtain ⟨f, e, hchain, he⟩ := ih d hd d' hd'
    exact ⟨f, e, .head ht hchain, he⟩

end Blaming

/-- A target that has ended and depends on one that has failed was skipped. -/
theorem Valid.skipped_of_failed (hv : r.Valid x order) {s : Status} (hs : r.status t = some s)
    (hterm : s.isTerminal = true) (hd : x.plan.Upstream t d) {e : TargetError}
    (he : r.status d = some (.failed e)) : ∃ reason, r.status t = some (.skipped reason) := by
  -- whatever a launched target depends on has completed
  have hno : s.hasBegun ≠ true := fun hb => by cases he.symm.trans (hv.upstream_completed hs hb hd)
  cases s with
  | pending => cases hterm
  | running => cases hterm
  | completed => exact absurd rfl hno
  | failed _ => exact absurd rfl hno
  | skipped reason => exact ⟨reason, hs⟩

end Run

namespace Runner

/-- When a run has ended every blame in it is true. -/
theorem blaming_ended (ho : x.plan.Ordered order) : (x.ended i order cancelled).Blaming x := by
  have hstart : (Run.start order cancelled).Valid x order ∧
      (Run.start order cancelled).Blaming x :=
    ⟨.start x ho.nodup cancelled, .start ho.nodup cancelled⟩
  exact (ended_keeps (P := fun r => r.Valid x order ∧ r.Blaming x) (m := 0) hstart
    fun ⟨hv, h⟩ hr => ⟨hv.next hr, h.next hv hr⟩).2

/-- The reasons for which targets are skipped are true at the end of every run of a compiled plan,
whatever the world answers, in whichever order targets go on and whenever the run is cancelled. A
skipped target has sent nothing. If it was skipped for a dependency, this is one of its own, which
has failed or was skipped for a dependency too, and whoever follows the dependencies that are named
comes to a target that has failed. And every wanted target that depends on one that has failed,
directly or not, was skipped. -/
theorem executeIn_blames_truly {m : Manifest} {supplied : Params} {base? : Option String}
    (h : m.compile supplied base? = .ok x.plan) {requested : List String}
    (hs : x.plan.schedule requested = .ok order) (i : Interleaving) (cancelled : Bool) :
    (∀ t reason, (x.ended i order cancelled).status t = some (.skipped reason) →
      ∀ e ∈ (x.executeIn i requested cancelled).1.entries, e.target ≠ t) ∧
    (∀ t d, (x.ended i order cancelled).status t = some (.skipped (.dependency d)) →
      d ∈ x.plan.dependencies t ∧
      ((∃ e, (x.ended i order cancelled).status d = some (.failed e)) ∨
        ∃ d', (x.ended i order cancelled).status d = some (.skipped (.dependency d'))) ∧
      ∃ f e, Relation.TransGen (x.ended i order cancelled).Blames t f ∧
        (x.ended i order cancelled).status f = some (.failed e)) ∧
    ∀ t ∈ order, ∀ d e, x.plan.Upstream t d →
      (x.ended i order cancelled).status d = some (.failed e) →
      ∃ reason, (x.ended i order cancelled).status t = some (.skipped reason) := by
  have ho := (Plan.runnable_of_schedule (Manifest.closed_of_compile h) hs).1
  obtain ⟨n, hn, -⟩ := exists_moment_loop x i order cancelled
  have hv : (x.ended i order cancelled).Valid x order := (valid_ended ho.toOrdered).1
  have hsent : (x.ended i order cancelled).Sent x.plan := hn ▸ sent_moment ho.toOrdered n
  have hblame : (x.ended i order cancelled).Blaming x := blaming_ended ho.toOrdered
  rw [executeIn_of_ok hs]
  refine ⟨fun t reason ht e he heq => ?_, fun t d ht => ?_, fun t ht d e hd he => ?_⟩
  · -- only targets that were launched have sent something
    obtain ⟨s, hstatus, hb⟩ := hsent.begun e he
    cases ht.symm.trans (heq ▸ hstatus)
    cases hb
  · obtain ⟨hd, hb⟩ := hblame.blamed t d ht
    exact ⟨hd, hb, hblame.exists_failed hv ho ht⟩
  · obtain ⟨s, hstatus, hterm⟩ := terminal_ended ho t ht
    exact hv.skipped_of_failed hstatus hterm hd he

/-- Where the instance of the first target of the sample refuses connections, the second target
blames the first, which has failed. -/
theorem executeIn_blames_truly_sample :
    Sample.manifest.compile .empty none = .ok (Sample.runner 2 (Sample.refusing [])).plan ∧
    (Sample.runner 2 (Sample.refusing [])).plan.schedule ["app"] = .ok ["base", "app"] ∧
    ((Sample.runner 2 (Sample.refusing [])).ended .fromFront ["base", "app"] false).status "app" =
      some (.skipped (.dependency "base")) ∧
    ∃ f e, Relation.TransGen
        ((Sample.runner 2 (Sample.refusing [])).ended .fromFront ["base", "app"] false).Blames
        "app" f ∧
      ((Sample.runner 2 (Sample.refusing [])).ended .fromFront ["base", "app"] false).status f =
        some (.failed e) := by
  have h := Sample.compile_manifest 2 (Sample.refusing [])
  have hs := Sample.schedule_plan 2 (Sample.refusing [])
  have hover : ((Sample.runner 2 (Sample.refusing [])).moment .fromFront ["base", "app"] false
      9).isOver = true := by rfl
  have happ : ((Sample.runner 2 (Sample.refusing [])).ended .fromFront ["base", "app"]
      false).status "app" = some (.skipped (.dependency "base")) := by
    rw [ended_eq_moment hover]
    decide +kernel
  obtain ⟨-, hblames, -⟩ := executeIn_blames_truly h hs .fromFront false
  exact ⟨h, hs, happ, (hblames "app" "base" happ).2.2⟩

end Runner

end Rollout
