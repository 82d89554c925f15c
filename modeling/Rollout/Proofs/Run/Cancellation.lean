import Rollout.Proofs.Run.Ending
import Rollout.Proofs.Run.Heeding
import Rollout.Proofs.Run.Steps

/-!
# What a cancellation does to a run

From the moment at which a run is cancelled it sends nothing more (`Next.silent`). The targets that
are pending then are skipped for it (`Next.pending_of_cancelled`). A target in flight that would
still ask for a round trip is doomed: whatever goes on next, it ends with the cancellation for its
error (`Run.Doomed`). Without a cancellation no target is skipped for one (`Run.Uncancelled`).
-/

namespace Rollout

variable {x : Runner} {order : List String} {i : Interleaving} {cancelled : Bool} {r r' : Run}
  {t : String}

namespace Work

/-- Work that is bound to fail for a cancellation: it stands at an activity that would still ask for
a round trip and heeds a cancellation, or has learnt of the cancellation and fails for it. -/
inductive Doomed : Work TargetError Unit → Prop where
  | asking {w : Work TargetError Unit} (ha : w.activity.asks = true)
    (hh : w.activity.Heeds TargetError.IsCancelled) : Doomed w
  | failing {e : TargetError} (he : e.IsCancelled) : Doomed (.ready (.fail e))

/-- What is left of work that heeds a cancellation heeds it. -/
theorem Goes.heeds {world : World} {target : String} {j j' : Journal}
    {w w' : Work TargetError Unit} (h : w.Goes world target j (j', .left w'))
    (hh : w.activity.Heeds TargetError.IsCancelled) :
    w'.activity.Heeds TargetError.IsCancelled := by
  cases h with
  | look next => exact hh.of_look.2 _
  | refused trip next _ => exact hh.of_ask.2 _
  | answered trip next _ _ => exact hh.of_ask.2 _
  | sent trip next _ _ _ _ => exact hh
  | interrupted trip _ _ next _ => exact hh.of_ask.2 _
  | received trip _ next _ => exact hh.of_ask.2 _
  | paused trip _ _ _ next _ => exact hh

/-- Doomed work stays so when it goes on in a cancelled run, or ends as it is doomed to. -/
theorem Goes.doomed {world : World} {target : String} {j : Journal} {w : Work TargetError Unit}
    {s : Journal × Progress TargetError Unit} (h : w.Goes world target j s)
    (hc : j.cancelled = true) (hd : w.Doomed) :
    (∃ w', s.2 = .left w' ∧ w'.Doomed) ∨ ∃ e, s.2 = .ended (.error e) ∧ e.IsCancelled := by
  cases hd with
  | failing he =>
    cases h
    exact .inr ⟨_, rfl, he⟩
  | asking ha hh =>
    -- work that asks has not ended, and it learns of the cancellation by whatever it does next
    cases h with
    | done _ => cases ha
    | fail _ => cases ha
    | look next =>
      obtain ⟨⟨e, hn, he⟩, -⟩ := hh.of_look
      exact .inl ⟨_, rfl, by rw [hc, hn]; exact .failing he⟩
    | refused trip next _ =>
      obtain ⟨⟨e, hn, he⟩, -⟩ := hh.of_ask
      exact .inl ⟨_, rfl, by rw [hn]; exact .failing he⟩
    | interrupted trip pauses answer next _ =>
      obtain ⟨⟨e, hn, he⟩, -⟩ := hh.of_ask
      exact .inl ⟨_, rfl, by rw [hn]; exact .failing he⟩
    | answered _ _ hno _ => cases hc.symm.trans hno
    | sent _ _ _ _ hno _ => cases hc.symm.trans hno
    | received _ _ _ hno => cases hc.symm.trans hno
    | paused _ _ _ _ _ hno => cases hc.symm.trans hno

end Work

namespace Run

/-- The work of every target in flight heeds a cancellation. -/
def Heeding (r : Run) : Prop :=
  ∀ f ∈ r.inFlight, f.work.activity.Heeds TargetError.IsCancelled

theorem Heeding.next (h : r.Heeding) (hr : x.Next r r') : r'.Heeding := by
  cases hr with
  | cancel => exact h
  | pass _ =>
    refine x.pass_keeps (P := Heeding) (fun r h => ?_) (fun _ h => h) (fun r name h _ _ _ => ?_)
      (fun _ h => h) h
    · exact fun f hf => h f ((Runner.inFlight_notice r) ▸ hf)
    · intro f hf
      rcases List.mem_append.1 hf with hf | hf
      · exact h f hf
      · cases List.mem_singleton.1 hf
        exact heeds_attemptAll x.files name _
  | @goOn before after f _ hq =>
    have hgoes := Work.goes_step x.world f.target r.journal f.work
    generalize f.work.step x.world f.target r.journal = s at hgoes
    obtain ⟨j, result | work⟩ := s
    · intro g hg
      exact h g ((mem_inFlight hq).2 (.inr hg))
    · intro g hg
      rcases Queue.mem_goOn.1 hg with rfl | hg
      · exact hgoes.heeds (h f ((mem_inFlight hq).2 (.inl rfl)))
      · exact h g ((mem_inFlight hq).2 (.inr hg))

/-- A target that is bound to fail for a cancellation, or has failed for it. -/
def Doomed (t : String) (r : Run) : Prop :=
  (∃ f ∈ r.inFlight, f.target = t ∧ f.work.Doomed) ∨
    ∃ e, r.status t = some (.failed e) ∧ e.IsCancelled

/-- In a cancelled run a target that is doomed stays so, whatever goes on. -/
theorem Doomed.next (h : r.Doomed t) (hv : r.Valid x order) (hc : r.journal.cancelled = true)
    (hr : x.Next r r') : r'.Doomed t := by
  rcases h with ⟨f, hf, rfl, hd⟩ | ⟨e, hs, he⟩
  · cases hr with
    | cancel => exact .inl ⟨f, hf, rfl, hd⟩
    | pass _ =>
      -- a pass only adds to the targets in flight
      refine .inl ⟨f, ?_, rfl, hd⟩
      refine x.pass_keeps (P := fun r => f ∈ r.inFlight) (fun r h => ?_) (fun _ h => h)
        (fun _ _ h _ _ _ => List.mem_append_left _ h) (fun _ h => h) hf
      rwa [Runner.inFlight_notice]
    | @goOn before after g _ hq =>
      have hgoes := Work.goes_step x.world g.target r.journal g.work
      generalize g.work.step x.world g.target r.journal = s at hgoes
      rcases (mem_inFlight hq).1 hf with rfl | hf
      · -- the target itself goes on
        obtain ⟨j, p⟩ := s
        rcases hgoes.doomed hc hd with ⟨w', rfl, hd'⟩ | ⟨e, rfl, he⟩
        · exact .inl ⟨⟨f.target, w'⟩, Queue.mem_goOn.2 (.inl rfl), rfl, hd'⟩
        · exact .inr ⟨e, by rw [status_goOn_ended, if_pos rfl]; rfl, he⟩
      · -- another target goes on
        obtain ⟨j, result | work⟩ := s
        · exact .inl ⟨f, hf, rfl, hd⟩
        · exact .inl ⟨f, Queue.mem_goOn.2 (.inr hf), rfl, hd⟩
  · exact .inr ⟨e, hr.terminal hv hs rfl, he⟩

/-- A target is skipped for a cancellation only in a cancelled run. -/
def Uncancelled (r : Run) : Prop :=
  r.journal.cancelled = false → ∀ t, r.status t ≠ some (.skipped .cancelled)

theorem Uncancelled.next (h : r.Uncancelled) (hr : x.Next r r') : r'.Uncancelled := by
  cases hr with
  | cancel => exact fun hc => absurd hc (by simp [Run.cancel, Journal.pause])
  | pass _ =>
    -- only the notice of a cancellation skips targets for it
    refine x.pass_keeps (P := Uncancelled) (fun r h hc t ht => ?_) (fun r h hc t ht => ?_)
      (fun r name h _ _ _ hc t ht => ?_) (fun _ h => h) h
    · rw [(Runner.notice_frame r).1] at hc
      rw [status_notice, if_neg (by simp [hc])] at ht
      exact h hc t ht
    · rcases x.status_skip r t with hs | ⟨-, d, -, hs, -⟩
      · exact h hc t (hs.symm.trans ht)
      · cases hs.symm.trans ht
    · rw [Runner.status_launchOne] at ht
      split at ht
      · cases ht
      · exact h hc t ht
  | @goOn before after f _ hq =>
    intro hc t ht
    have hbefore : r.journal.cancelled = false := by
      cases hj : r.journal.cancelled with
      | false => rfl
      | true =>
        rw [Run.journal_goOn, Work.cancelled_step hj] at hc
        cases hc
    generalize f.work.step x.world f.target r.journal = s at ht
    obtain ⟨j, result | work⟩ := s
    · rw [status_goOn_ended] at ht
      split at ht
      · cases result <;> cases ht
      · exact h hbefore t ht
    · exact h hbefore t ht

end Run

namespace Runner

namespace Next

/-- A cancelled run stays cancelled and sends nothing. -/
theorem silent (h : x.Next r r') (hc : r.journal.cancelled = true) :
    r'.journal.cancelled = true ∧ r'.journal.entries = r.journal.entries := by
  refine ⟨h.cancelled hc, ?_⟩
  rcases h.entries with he | ⟨hno, -⟩
  · exact he
  · cases hc.symm.trans hno

/-- A target that is pending in a cancelled run is skipped for the cancellation by the next pass. -/
theorem pending_of_cancelled (h : x.Next r r') (hv : r.Valid x order)
    (hc : r.journal.cancelled = true) (hp : r.status t = some .pending) :
    r'.status t = some .pending ∨ r'.status t = some (.skipped .cancelled) := by
  cases h with
  | cancel => exact .inl hp
  | pass _ =>
    -- the cancellation has not been noticed yet, or nothing would be pending
    have hn := hv.not_noticed_of_pending hp
    refine .inr (x.status_pass_of_notice ?_ (by simp))
    rw [Run.status_notice, if_pos ⟨hn, hc, hp⟩]
  | goOn _ hq =>
    refine .inl ?_
    rw [hv.status_goOn_of_ne hq (by simp [hp])]
    exact hp

end Next

/-- What holds at a moment of a cancelled run, and is kept by everything that can happen in one,
holds at the end. -/
theorem ended_keeps_of_cancelled {P : Run → Prop} (ho : x.plan.Ordered order) {n : Nat}
    (hc : (x.moment i order cancelled n).journal.cancelled = true)
    (h : P (x.moment i order cancelled n))
    (hnext : ∀ {r r'}, P r → r.Valid x order → r.journal.cancelled = true → x.Next r r' → P r') :
    P (x.ended i order cancelled) := by
  have hkeep : ∀ {r r'}, r.Valid x order ∧ r.journal.cancelled = true ∧ P r → x.Next r r' →
      r'.Valid x order ∧ r'.journal.cancelled = true ∧ P r' := fun ⟨hv, hc, h⟩ hr =>
    ⟨hv.next hr, hr.cancelled hc, hnext h hv hc hr⟩
  exact (ended_keeps ⟨(valid_moment ho n).1, hc, h⟩ hkeep).2.2

/-- What holds at the start of a run that is never cancelled, and is kept by everything that can
happen in one, holds at the end. -/
theorem ended_keeps_of_not_cancelled {P : Run → Prop}
    (hc : (x.ended i order cancelled).journal.cancelled = false)
    (hstart : cancelled = false → P (Run.start order cancelled))
    (hnext : ∀ {r r'}, P r → x.Next r r' → r'.journal.cancelled = false → P r') :
    P (x.ended i order cancelled) := by
  refine ended_keeps (P := fun r => r.journal.cancelled = false → P r) (m := 0) hstart
    (fun {r r'} h hr hc => ?_) hc
  -- a cancellation is not taken back, so there was none before
  refine hnext (h (Bool.eq_false_iff.2 fun hj => ?_)) hr hc
  cases (hr.cancelled hj).symm.trans hc

/-- A run sends nothing after it is cancelled. -/
theorem entries_ended_of_cancelled (ho : x.plan.Ordered order) {n : Nat}
    (hc : (x.moment i order cancelled n).journal.cancelled = true) :
    (x.ended i order cancelled).journal.entries =
      (x.moment i order cancelled n).journal.entries :=
  ended_keeps_of_cancelled (P := fun r =>
    r.journal.entries = (x.moment i order cancelled n).journal.entries) ho hc rfl
    fun h _ hc hr => (hr.silent hc).2.trans h

/-- Every target that is pending when a run is cancelled ends skipped for the cancellation. -/
theorem skipped_of_pending (ho : x.plan.Runnable order) {n : Nat}
    (hc : (x.moment i order cancelled n).journal.cancelled = true)
    (hp : (x.moment i order cancelled n).status t = some .pending) :
    (x.ended i order cancelled).status t = some (.skipped .cancelled) := by
  have hfate : (x.ended i order cancelled).status t = some .pending ∨
      (x.ended i order cancelled).status t = some (.skipped .cancelled) := by
    refine ended_keeps_of_cancelled
      (P := fun r => r.status t = some .pending ∨ r.status t = some (.skipped .cancelled))
      ho.toOrdered hc (.inl hp) fun h hv hc hr => ?_
    rcases h with h | h
    · exact hr.pending_of_cancelled hv hc h
    · exact .inr (hr.terminal hv h rfl)
  -- at the end nothing is pending
  refine hfate.resolve_left fun hpend => ?_
  have hmem := (valid_ended ho.toOrdered).1.mem_of_status hpend
  obtain ⟨s, hs, hterm⟩ := terminal_ended ho t hmem
  cases hpend.symm.trans hs
  cases hterm

/-- Every target in flight that would still ask for a round trip when a run is cancelled ends failed
for the cancellation. -/
theorem failed_of_asks (ho : x.plan.Ordered order) {n : Nat}
    (hc : (x.moment i order cancelled n).journal.cancelled = true) {f : Flight}
    (hf : f ∈ (x.moment i order cancelled n).inFlight) (ha : f.work.activity.asks = true) :
    ∃ e, (x.ended i order cancelled).status f.target = some (.failed e) ∧ e.IsCancelled := by
  have hheed : (x.moment i order cancelled n).Heeding :=
    moment_keeps (P := Run.Heeding) (fun _ h => (nomatch h)) (fun h hr => h.next hr) n
  have hdoom : (x.ended i order cancelled).Doomed f.target :=
    ended_keeps_of_cancelled ho hc (.inl ⟨f, hf, rfl, .asking ha (hheed f hf)⟩)
      fun h hv hc hr => h.next hv hc hr
  -- at the end nothing is in flight
  refine hdoom.resolve_left fun ⟨f, hf, _⟩ => ?_
  obtain ⟨-, -, hover⟩ := exists_moment_loop x i order cancelled
  have hempty : (x.ended i order cancelled).inFlight = [] := by
    simp only [Run.isOver, Bool.and_eq_true, List.isEmpty_iff] at hover
    exact hover.2
  rw [hempty] at hf
  cases hf

/-- A target is skipped for a cancellation only in a run that is cancelled. -/
theorem uncancelled_ended (hn : order.Nodup) : (x.ended i order cancelled).Uncancelled := by
  have hstart : (Run.start order cancelled).Uncancelled := fun _ t ht => by
    rw [Run.status_start hn] at ht
    split at ht <;> cases ht
  exact ended_keeps (m := 0) hstart fun h hr => h.next hr

/-- A cancellation stops the whole run of a compiled plan, whatever the world answers and in
whichever order targets go on. Let the run be cancelled by some moment, be it the start or one in
the middle of a round trip. Then nothing is sent after that moment; every target that is pending at
it ends skipped for the cancellation; and every target in flight at it that would still ask for a
round trip, or that has one under way, ends failed for the cancellation. In a run that is never
cancelled no target ends skipped for a cancellation. -/
theorem executeIn_stops {m : Manifest} {supplied : Params} {base? : Option String}
    (h : m.compile supplied base? = .ok x.plan) (i : Interleaving) (requested : List String)
    (cancelled : Bool) (hs : x.plan.schedule requested = .ok order) :
    (∀ n, (x.moment i order cancelled n).journal.cancelled = true →
      (x.executeIn i requested cancelled).1.entries =
        (x.moment i order cancelled n).journal.entries ∧
      (∀ t, (x.moment i order cancelled n).status t = some .pending →
        (x.ended i order cancelled).status t = some (.skipped .cancelled)) ∧
      ∀ f ∈ (x.moment i order cancelled n).inFlight, f.work.activity.asks = true →
        ∃ e, (x.ended i order cancelled).status f.target = some (.failed e) ∧
          e.cause = .cancelled) ∧
    ((x.executeIn i requested cancelled).1.cancelled = false →
      ∀ t, (x.ended i order cancelled).status t ≠ some (.skipped .cancelled)) := by
  have ho := (Plan.runnable_of_schedule (Manifest.closed_of_compile h) hs).1
  rw [executeIn_of_ok hs]
  refine ⟨fun n hc => ⟨?_, fun t hp => ?_, fun f hf ha => ?_⟩, fun hc => ?_⟩
  · exact entries_ended_of_cancelled ho.toOrdered hc
  · exact skipped_of_pending ho hc hp
  · exact failed_of_asks ho.toOrdered hc hf ha
  · exact uncancelled_ended ho.nodup hc

/-- Where the run of the sample is cancelled while the first target connects, the run sends nothing
more, the first target fails and the second is skipped. -/
theorem executeIn_stops_sample :
    Sample.manifest.compile .empty none = .ok (Sample.runner 2 Sample.cancelling).plan ∧
    (Sample.runner 2 Sample.cancelling).plan.schedule ["app"] = .ok ["base", "app"] ∧
    ((Sample.runner 2 Sample.cancelling).executeIn .fromFront ["app"] false).1.entries =
      [⟨"base", .connect "SQL01"⟩] ∧
    (∃ e, ((Sample.runner 2 Sample.cancelling).ended .fromFront ["base", "app"] false).status
      "base" = some (.failed e) ∧ e.cause = .cancelled) ∧
    ((Sample.runner 2 Sample.cancelling).ended .fromFront ["base", "app"] false).status "app" =
      some (.skipped .cancelled) := by
  have h := Sample.compile_manifest 2 Sample.cancelling
  have hs := Sample.schedule_plan 2 Sample.cancelling
  -- at the third moment the first target has sent its first round trip
  obtain ⟨hstops, -⟩ := executeIn_stops h .fromFront ["app"] false hs
  obtain ⟨hsent, hskipped, hfailed⟩ := hstops 3 (by rfl)
  refine ⟨h, hs, hsent.trans (by rfl), ?_, hskipped "app" (by rfl)⟩
  exact hfailed ⟨"base", _⟩ (.head _) (by rfl)

end Runner

end Rollout
