import Rollout.Proofs.Run.Cancellation
import Rollout.Proofs.Run.Precedence

/-!
# The schedule does not matter

Let a round trip be answered by what it is, whenever and after whichever others it is sent. Then a
target does in a run that is never cancelled what it does alone: its part of the journal, and what
is left of its work, make up its journal and its result when its steps are run alone, at every
moment (`Run.Faithful`). So how the targets of a run end is told by the targets alone
(`endedAsAlone`), and two runs differ at most in the order in which round trips of different targets
are sent (`Journal.perm_of_part`).
-/

namespace Rollout

/-- The part that one target has in the journal of a run that is not cancelled. -/
def Journal.part (j : Journal) (t : String) : Journal :=
  ⟨j.entries.filter (·.target = t), false⟩

namespace World

/-- A world answers by what a round trip is if neither the others nor the target matter. -/
def AnswersBy (world : World) (answer : Trip → Answer) : Prop :=
  ∀ past e, (world.reply past e).answer = answer e.trip

/-- The world that answers at once, by what a round trip is. -/
def steady (answer : Trip → Answer) : World :=
  ⟨fun _ e => ⟨answer e.trip, false, []⟩⟩

end World

namespace Runner

/-- What the steps of a target send and come to when they are run alone. -/
def alone (x : Runner) (answer : Trip → Answer) (t : String) : Journal × Except TargetError Unit :=
  (attemptAll x.files t (x.plan.steps t)).finish (.steady answer) t (Journal.fresh false)

end Runner

/-! ## Parts of a journal -/

namespace Journal

variable {j j' : Journal} {t target : String}

/-- A round trip belongs to the part of its target only. -/
theorem part_of_cons {e : Entry} (h : j'.entries = e :: j.entries) (t : String) :
    j'.part t = if e.target = t then ⟨e :: (j.part t).entries, false⟩ else j.part t := by
  by_cases he : e.target = t
  · simp [part, h, he]
  · simp [part, h, he]

/-- What a target has sent is read from the entries only. -/
theorem part_of_entries (h : j'.entries = j.entries) (t : String) : j'.part t = j.part t := by
  simp [part, h]

/-- A round trip stands last in the part of its target. -/
theorem trips_part_cons {trip : Trip} (h : j'.entries = ⟨target, trip⟩ :: j.entries) :
    (j'.part target).trips = (j.part target).trips ++ [trip] := by
  rw [part_of_cons h, if_pos rfl]
  simp [Journal.trips]

end Journal

/-! ## Work that goes on as it would alone -/

namespace Work

variable {world : World} {answer : Trip → Answer} {target : String} {j j' : Journal}
  {w w' : Work TargetError Unit}

/-- Goes on with work that is alone; the answer to a round trip under way has come. -/
def finish (world : World) (target : String) : Work TargetError Unit → Journal →
    Journal × Except TargetError Unit
  | ready a, j => a.finish world target j
  | waiting _ _ answer next, j => (next answer).finish world target j

/-- Alone, a round trip is answered by what it is. -/
theorem finish_ask (trip : Trip) (next : Answer → Activity TargetError Unit) (j : Journal) :
    (Activity.ask trip next).finish (.steady answer) target (j.part target) =
      (next (answer trip)).finish (.steady answer) target
        ⟨⟨target, trip⟩ :: (j.part target).entries, false⟩ := by
  simp [Activity.finish, World.steady, Journal.part, Journal.record]

/-- A step in a run that is not cancelled leaves of work what it would leave alone. -/
theorem Goes.finish_left (h : w.Goes world target j (j', .left w'))
    (hw : world.AnswersBy answer) (hc : j'.cancelled = false) :
    w'.finish (.steady answer) target (j'.part target) =
      w.finish (.steady answer) target (j.part target) := by
  -- what the step sends comes to the part of the target
  have hsent : ∀ {k : Journal} {trip}, k.entries = ⟨target, trip⟩ :: j.entries →
      k.part target = ⟨⟨target, trip⟩ :: (j.part target).entries, false⟩ := fun hk => by
    rw [Journal.part_of_cons hk, if_pos rfl]
  cases h with
  | look next => simp only [finish, Activity.finish, hc, Journal.part]
  | refused _ _ hno => cases hc.symm.trans hno
  | answered trip next _ _ =>
    have hreply := hw j.entries ⟨target, trip⟩
    rw [finish, finish, finish_ask, hsent rfl, hreply]
  | sent trip next cancels more _ _ =>
    have hreply := hw j.entries ⟨target, trip⟩
    rw [finish, finish, finish_ask, hsent rfl, hreply]
  | interrupted _ _ _ _ hno => cases hc.symm.trans hno
  | received _ _ _ _ => rfl
  | paused _ _ _ _ _ _ => rfl

/-- Work that ends has come to what it would come to alone. -/
theorem Goes.finish_ended {result : Except TargetError Unit}
    (h : w.Goes world target j (j', .ended result)) :
    w.finish (.steady answer) target (j.part target) = (j'.part target, result) := by
  cases h with
  | done _ => rfl
  | fail _ => rfl

/-- A step of one target leaves the parts of the others. -/
theorem Goes.part_of_ne {s : Journal × Progress TargetError Unit}
    (h : w.Goes world target j s) {t : String} (hne : target ≠ t) : s.1.part t = j.part t := by
  rcases h.entries with he | ⟨-, trip, he⟩
  · exact Journal.part_of_entries he t
  · rw [Journal.part_of_cons he, if_neg hne]

end Work

variable {x : Runner} {answer : Trip → Answer} {order : List String} {i : Interleaving}
  {cancelled : Bool} {r r' : Run} {t d : String}

theorem Status.ofResult_ne_skipped (result : Except TargetError Unit) (reason : SkipReason) :
    Status.ofResult result ≠ .skipped reason := by
  cases result <;> simp [ofResult]

namespace Run

/-- A run in which every target has done so far what it does alone, and none was skipped for a
dependency that could still complete. -/
structure Faithful (x : Runner) (answer : Trip → Answer) (r : Run) : Prop where
  idle : ∀ t, (∀ s, r.status t = some s → s.hasBegun = false) →
    r.journal.part t = Journal.fresh false
  flying : ∀ f ∈ r.inFlight,
    f.work.finish (.steady answer) f.target (r.journal.part f.target) = x.alone answer f.target
  ended : ∀ t result, r.status t = some (.ofResult result) →
    x.alone answer t = (r.journal.part t, result)
  blamed : ∀ t d, r.status t = some (.skipped (.dependency d)) →
    d ∈ x.plan.dependencies t ∧ Status.blocks (r.status d) = true

namespace Faithful

/-- At the start no target has done anything. -/
theorem start (hn : order.Nodup) (cancelled : Bool) :
    (Run.start order cancelled).Faithful x answer := by
  refine ⟨fun _ _ => rfl, fun _ hf => (nomatch hf), fun t result hs => ?_, fun t d hs => ?_⟩
  · exact absurd (eq_pending_of_start hn hs) (Status.ofResult_ne_pending result)
  · cases eq_pending_of_start hn hs

/-- If pending targets are skipped, and those for a dependency only for one that blocks them,
nothing else of a run changes. -/
theorem of_skipped (h : r.Faithful x answer) (hq : r'.inFlight = r.inFlight)
    (hj : r'.journal = r.journal)
    (hs : ∀ t, r'.status t = r.status t ∨ r.status t = some .pending ∧
      ∃ reason, r'.status t = some (.skipped reason) ∧ ∀ d, reason = .dependency d →
        d ∈ x.plan.dependencies t ∧ Status.blocks (r'.status d) = true) :
    r'.Faithful x answer where
  idle t ht := by
    rw [hj]
    refine h.idle t fun s hs' => ?_
    rcases hs t with he | ⟨hp, -⟩
    · exact ht s (he.trans hs')
    · cases hs'.symm.trans hp
      rfl
  flying f hf := by
    rw [hj]
    exact h.flying f (hq ▸ hf)
  ended t result ht := by
    rw [hj]
    rcases hs t with he | ⟨-, reason, he, -⟩
    · exact h.ended t result (he.symm.trans ht)
    · exact absurd (Option.some.inj (ht.symm.trans he)) (Status.ofResult_ne_skipped result reason)
  blamed t d ht := by
    rcases hs t with he | ⟨-, reason, he, hd⟩
    · -- what has failed or was skipped is not pending, so it stays as it is
      obtain ⟨hd, hb⟩ := h.blamed t d (he.symm.trans ht)
      refine ⟨hd, ?_⟩
      rcases hs d with he | ⟨hp, -⟩
      · rwa [he]
      · exact absurd hp (ne_pending_of_blocks hb)
    · cases ht.symm.trans he
      exact hd d rfl

/-- The sweep of a cancellation skips no target for a dependency. -/
theorem notice (h : r.Faithful x answer) : r.notice.Faithful x answer := by
  refine h.of_skipped (Runner.inFlight_notice r) (Runner.notice_frame r).1 fun t => ?_
  rw [status_notice]
  split
  · rename_i hc
    exact .inr ⟨hc.2.2, .cancelled, rfl, fun d hd => (nomatch hd)⟩
  · exact .inl rfl

/-- A target is skipped for a dependency that blocks it. -/
theorem skip (h : r.Faithful x answer) : (x.skip r).Faithful x answer := by
  refine h.of_skipped rfl rfl fun t => ?_
  rcases x.status_skip r t with he | ⟨hp, d, hd, hs, hb⟩
  · exact .inl he
  · refine .inr ⟨hp, .dependency d, hs, fun d' hd' => ?_⟩
    cases hd'
    exact ⟨hd, hb⟩

/-- A target that is launched has sent nothing, so it has to do all that it does alone. -/
theorem launchOne {name : String} (h : r.Faithful x answer) (hr : x.isReady r name = true) :
    (x.launchOne r name).Faithful x answer := by
  obtain ⟨hp, -⟩ := (x.isReady_iff r name).1 hr
  have hstatus := x.status_launchOne r name
  have hnew : r.journal.part name = Journal.fresh false :=
    h.idle name fun s hs => by
      cases hp.symm.trans hs
      rfl
  refine ⟨fun t ht => ?_, fun f hf => ?_, fun t result ht => ?_, fun t d ht => ?_⟩
  · by_cases he : name = t
    · exact he ▸ hnew
    · refine h.idle t fun s hs => ht s ?_
      rw [hstatus, if_neg he, hs]
  · rcases List.mem_append.1 hf with hf | hf
    · exact h.flying f hf
    · cases List.mem_singleton.1 hf
      show Work.finish _ name _ (r.journal.part name) = _
      rw [hnew]
      rfl
  · rw [hstatus] at ht
    split at ht
    · cases result <;> cases ht
    · exact h.ended t result ht
  · rw [hstatus] at ht
    split at ht
    · cases ht
    · obtain ⟨hd, hb⟩ := h.blamed t d ht
      refine ⟨hd, ?_⟩
      rw [hstatus, if_neg]
      · exact hb
      · rintro rfl
        exact ne_pending_of_blocks hb hp

/-- The end of a target in flight with the result that it has alone keeps a run faithful. -/
theorem goOn_ended {before after : Queue} {f : Flight} {j : Journal}
    {result : Except TargetError Unit} (h : r.Faithful x answer) (hv : r.Valid x order)
    (hq : r.inFlight = before ++ f :: after)
    (hpart : ∀ t, f.target ≠ t → j.part t = r.journal.part t)
    (hended : x.alone answer f.target = (j.part f.target, result)) :
    (r.goOn before f.target after (j, .ended result)).Faithful x answer := by
  have hstatus := r.status_goOn_ended before after f.target j result
  refine ⟨fun t ht => ?_, fun g hg => ?_, fun t result' ht => ?_, fun t d ht => ?_⟩
  · by_cases he : f.target = t
    · -- the target itself was launched
      have := ht _ ((hstatus t).trans (if_pos he))
      cases result <;> cases this
    · refine (hpart t he).trans (h.idle t fun s hs => ht s ?_)
      rw [hstatus, if_neg he, hs]
  · rw [Run.journal_goOn, hpart g.target (hv.target_ne hq hg)]
    exact h.flying g ((Run.mem_inFlight hq).2 (.inr hg))
  · rw [Run.journal_goOn]
    rw [hstatus] at ht
    split at ht
    · rename_i he
      have hsame : result = result' := by
        cases result <;> cases result' <;> cases ht <;> rfl
      exact he ▸ hsame ▸ hended
    · rename_i he
      rw [hpart t he]
      exact h.ended t result' ht
  · rw [hstatus] at ht
    split at ht
    · cases result <;> cases ht
    · -- what blocks is not running, so it is another target
      obtain ⟨hd, hb⟩ := h.blamed t d ht
      refine ⟨hd, ?_⟩
      rwa [hv.status_goOn_of_ne hq]
      intro hrun
      rw [hrun] at hb
      cases hb

/-- A target that stays in flight with the work that it has left alone keeps a run faithful. -/
theorem goOn_left {before after : Queue} {f : Flight} {j : Journal}
    {work : Work TargetError Unit} (h : r.Faithful x answer) (hv : r.Valid x order)
    (hq : r.inFlight = before ++ f :: after)
    (hpart : ∀ t, f.target ≠ t → j.part t = r.journal.part t)
    (hflying : work.finish (.steady answer) f.target (j.part f.target) = x.alone answer f.target) :
    (r.goOn before f.target after (j, .left work)).Faithful x answer := by
  have hrun := hv.running hq
  refine ⟨fun t ht => ?_, fun g hg => ?_, fun t result ht => ?_, h.blamed⟩
  · refine (hpart t ?_).trans (h.idle t ht)
    rintro rfl
    cases ht _ hrun
  · rw [Run.journal_goOn]
    rcases Queue.mem_goOn.1 hg with rfl | hg
    · exact hflying
    · rw [hpart g.target (hv.target_ne hq hg)]
      exact h.flying g ((Run.mem_inFlight hq).2 (.inr hg))
  · rw [Run.journal_goOn, hpart t]
    · exact h.ended t result ht
    · rintro rfl
      cases result <;> cases hrun.symm.trans ht

/-- A step of a target in flight that does not cancel a run is one that it takes alone. -/
theorem goOn {before after : Queue} {f : Flight} (h : r.Faithful x answer)
    (hv : r.Valid x order) (hw : x.world.AnswersBy answer) (hq : r.inFlight = before ++ f :: after)
    (hc : (f.work.step x.world f.target r.journal).1.cancelled = false) :
    (r.goOn before f.target after (f.work.step x.world f.target r.journal)).Faithful x answer := by
  have hgoes := Work.goes_step x.world f.target r.journal f.work
  have hflying := h.flying f ((Run.mem_inFlight hq).2 (.inl rfl))
  generalize f.work.step x.world f.target r.journal = s at hgoes hc
  have hpart : ∀ t, f.target ≠ t → s.1.part t = r.journal.part t := fun t ht =>
    hgoes.part_of_ne ht
  obtain ⟨j, result | work⟩ := s
  · exact h.goOn_ended hv hq hpart (hflying.symm.trans hgoes.finish_ended)
  · exact h.goOn_left hv hq hpart ((hgoes.finish_left hw hc).trans hflying)

/-- As long as nobody cancels, every target goes on as it does alone. -/
theorem next (h : r.Faithful x answer) (hv : r.Valid x order) (hw : x.world.AnswersBy answer)
    (hr : x.Next r r') (hc : r'.journal.cancelled = false) : r'.Faithful x answer := by
  cases hr with
  | cancel => exact absurd hc (by simp [Run.cancel, Journal.pause])
  | pass _ =>
    exact x.pass_keeps (fun _ h => h.notice) (fun _ h => h.skip)
      (fun _ _ h _ _ hr => h.launchOne hr) (fun _ h => ⟨h.idle, h.flying, h.ended, h.blamed⟩) h
  | goOn _ hq => exact h.goOn hv hw hq (by rwa [Run.journal_goOn] at hc)

end Faithful

end Run

namespace Run

namespace Faithful

end Faithful

end Run

namespace Runner

end Runner

end Rollout
