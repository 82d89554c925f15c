import Rollout.Proofs.Run.Ending
import Rollout.Proofs.Run.Steps

/-!
# The transitions of a run

A target moves from pending to running and then to the status of its result, or from pending to
skipped, and in no other way (`Status.Moves`). A step of a run moves a target at most once
(`Runner.Next.moves`), so from any moment to a later one a target goes along a path of moves
(`path_moment`): none is launched a second time, and what has ended stays as it is. There are never
more targets in flight than there is room for (`length_inFlight_moment`), and room is left only
where no target is ready.
-/

namespace Rollout

variable {x : Runner} {order : List String} {i : Interleaving} {cancelled : Bool} {r r' : Run}
  {t : String}

namespace Status

/-- How the status of a target changes at once. -/
inductive Moves : Status → Status → Prop where
  | launch : Moves pending running
  | skip (reason : SkipReason) : Moves pending (skipped reason)
  | finish (result : Except TargetError Unit) : Moves running (ofResult result)

/-- How the status of a target changes in the course of a run. -/
abbrev Path : Status → Status → Prop :=
  Relation.ReflTransGen Moves

/-- Nothing becomes pending. -/
theorem Moves.ne_pending {s s' : Status} (h : Moves s s') : s' ≠ pending := by
  cases h with
  | launch => simp
  | skip reason => simp
  | finish result => exact ofResult_ne_pending result

/-- A status in which a target has ended is the last one of a path. -/
theorem Path.of_isTerminal {s s' : Status} (h : Path s s') (ht : s.isTerminal = true) : s' = s := by
  rcases h.cases_head with he | ⟨_, hm, -⟩
  · exact he.symm
  · cases hm <;> cases ht

/-- A path comes to a pending target only at its start. -/
theorem Path.eq_pending {s : Status} (h : Path s pending) : s = pending := by
  rcases h.cases_tail with he | ⟨_, -, hm⟩
  · exact he.symm
  · exact absurd rfl hm.ne_pending

end Status

namespace Run

/-- The status of a target is the same in two runs, or has moved from the one to the other. -/
def Moved (r r' : Run) (t : String) : Prop :=
  r'.status t = r.status t ∨
    ∃ s s', r.status t = some s ∧ r'.status t = some s' ∧ s.Moves s'

/-- A pending target was pending before it moved. -/
theorem Moved.of_pending (h : Moved r r' t) (hp : r'.status t = some .pending) :
    r.status t = some .pending := by
  rcases h with he | ⟨s, s', -, hs', hm⟩
  · exact he ▸ hp
  · exact absurd (Option.some.inj (hs'.symm.trans hp)) hm.ne_pending

/-- A target that has only moved as far as to be pending may move on from there. -/
theorem Moved.trans_of_pending {r'' : Run} (h : Moved r r' t)
    (hm : r''.status t = r'.status t ∨ r'.status t = some .pending ∧
      ∃ s, r''.status t = some s ∧ Status.Moves .pending s) : Moved r r'' t := by
  rcases hm with he | ⟨hp, s, hs, hm⟩
  · rwa [Moved, he]
  · exact .inr ⟨.pending, s, h.of_pending hp, hs, hm⟩

theorem Moved.path {s : Status} (h : Moved r r' t) (hs : r.status t = some s) :
    ∃ s', r'.status t = some s' ∧ s.Path s' := by
  rcases h with he | ⟨s, s', hs', he, hm⟩
  · exact ⟨s, he.trans hs, .refl⟩
  · cases hs.symm.trans hs'
    exact ⟨s', he, .single hm⟩

end Run

namespace Runner

/-- A pass moves a target at most once. -/
theorem moved_pass (x : Runner) (r : Run) (t : String) : r.Moved (x.pass r) t := by
  refine x.pass_keeps (P := fun r' => r.Moved r' t) (fun r' h => ?_) (fun r' h => ?_)
    (fun r' name h _ _ hready => ?_) (fun _ h => h) (.inl rfl)
  · refine h.trans_of_pending ?_
    rw [Run.status_notice]
    split
    · rename_i hc
      exact .inr ⟨hc.2.2, _, rfl, .skip .cancelled⟩
    · exact .inl rfl
  · refine h.trans_of_pending ?_
    rcases x.status_skip r' t with hs | ⟨hp, d, -, hs, -⟩
    · exact .inl hs
    · exact .inr ⟨hp, _, hs, .skip (.dependency d)⟩
  · refine h.trans_of_pending ?_
    rw [status_launchOne]
    split
    · rename_i he
      exact .inr ⟨he ▸ ((x.isReady_iff r' name).1 hready).1, _, rfl, .launch⟩
    · exact .inl rfl

/-- A step of a run moves a target at most once. -/
theorem Next.moves (h : x.Next r r') (hv : r.Valid x order) (t : String) : r.Moved r' t := by
  cases h with
  | cancel => exact .inl rfl
  | pass _ => exact x.moved_pass r t
  | @goOn before after f _ hq =>
    generalize f.work.step x.world f.target r.journal = s
    obtain ⟨j, result | work⟩ := s
    · by_cases he : f.target = t
      · exact .inr ⟨_, _, he ▸ hv.running hq, by rw [Run.status_goOn_ended, if_pos he],
          .finish result⟩
      · exact .inl (by rw [Run.status_goOn_ended, if_neg he])
    · exact .inl rfl

/-- A step of a run leaves no more targets in flight than there is room for. -/
theorem Next.length_inFlight_le (h : x.Next r r') (hl : r.inFlight.length ≤ x.limit) :
    r'.inFlight.length ≤ x.limit := by
  cases h with
  | cancel => exact hl
  | pass _ =>
    refine x.pass_keeps (P := fun r => r.inFlight.length ≤ x.limit) (fun r h => ?_)
      (fun _ h => h) (fun r name _ _ hroom _ => ?_) (fun _ h => h) hl
    · rwa [inFlight_notice]
    · simp only [launchOne, List.length_append, List.length_cons, List.length_nil]
      omega
  | @goOn before after f _ hq =>
    have hone : (before ++ after).length + 1 = r.inFlight.length := by
      rw [hq, List.perm_middle.length_eq, List.length_cons]
    generalize f.work.step x.world f.target r.journal = s
    obtain ⟨j, result | work⟩ := s
    · show (before ++ after).length ≤ x.limit
      omega
    · show (Queue.goOn before ⟨f.target, work⟩ after).length ≤ x.limit
      rw [(Queue.goOn_perm before ⟨f.target, work⟩ after).length_eq, List.length_cons]
      omega

/-- There are never more targets in flight than there is room for. -/
theorem length_inFlight_moment (n : Nat) :
    (x.moment i order cancelled n).inFlight.length ≤ x.limit :=
  moment_keeps (P := fun r => r.inFlight.length ≤ x.limit) (Nat.zero_le _)
    (fun h hr => hr.length_inFlight_le h) n

/-- From a moment to the next one a target moves at most once. -/
theorem moved_moment (ho : x.plan.Ordered order) (n : Nat) (t : String) :
    (x.moment i order cancelled n).Moved (x.moment i order cancelled (n + 1)) t := by
  cases hover : (x.moment i order cancelled n).isOver with
  | true => exact .inl (by rw [moment, step_of_isOver hover])
  | false => exact (step_of_not_isOver hover (i n)).moves (valid_moment ho n).1 t

/-- From a moment to a later one the status of a target goes along a path. -/
theorem path_moment (ho : x.plan.Ordered order) {m n : Nat} (hle : m ≤ n) {s : Status}
    (hs : (x.moment i order cancelled m).status t = some s) :
    ∃ s', (x.moment i order cancelled n).status t = some s' ∧ s.Path s' := by
  induction n, hle using Nat.le_induction with
  | base => exact ⟨s, hs, .refl⟩
  | succ n _ ih =>
    obtain ⟨s', hs', hpath⟩ := ih
    obtain ⟨s'', hs'', hmove⟩ := (moved_moment ho n t).path hs'
    exact ⟨s'', hs'', hpath.trans hmove⟩

/-- A target that is not pending any more is never pending again. -/
theorem status_moment_ne_pending (ho : x.plan.Ordered order) {m n : Nat} (hle : m ≤ n) {s : Status}
    (hs : (x.moment i order cancelled m).status t = some s) (hne : s ≠ .pending) :
    (x.moment i order cancelled n).status t ≠ some .pending := by
  obtain ⟨s', hs', hpath⟩ := path_moment ho hle hs
  intro hp
  cases hs'.symm.trans hp
  exact hne hpath.eq_pending

end Runner

namespace Run

/-- What holds of the targets in flight at every moment of a run. -/
structure Orderly (x : Runner) (r : Run) : Prop where
  /-- The running targets are those in flight. -/
  flying : ∀ t, r.status t = some .running ↔ t ∈ r.inFlight.map Flight.target
  distinct : (r.inFlight.map Flight.target).Nodup
  room : r.inFlight.length ≤ max 1 x.maxParallel
  /-- Between two passes, when a run waits for the targets in flight, either the room is used up or
  no pending target has only completed dependencies. -/
  busy : r.stale = false → r.inFlight.length = max 1 x.maxParallel ∨
    ∀ t, r.status t = some .pending → ∃ d ∈ x.plan.dependencies t, r.status d ≠ some .completed

theorem Valid.orderly (hv : r.Valid x order) (hs : r.Settled x)
    (hl : r.inFlight.length ≤ x.limit) : r.Orderly x where
  flying := hv.flying
  distinct := hv.distinct
  room := hl
  busy hst := by
    rcases Nat.lt_or_eq_of_le hl with hroom | hfull
    · -- there is room, so no target is ready
      refine .inr fun t hp => ?_
      by_contra hno
      push Not at hno
      have hready := (x.isReady_iff r t).2 ⟨hp, hno⟩
      rw [hs.saturated hst hroom t] at hready
      cases hready
    · exact .inl hfull

end Run

namespace Runner

/-- The scheduling of any plan at every moment of the run that a request comes to, whatever the
world answers, in whichever order targets go on and whenever the run is cancelled. The running
targets are those in flight, each once, and no more than there is room for, and room is left only
where no target is ready. From a moment to the next one a target moves at most once, so it is
launched at one moment at most, and once it has ended its status does not change. -/
theorem moment_transitions {requested : List String}
    (hs : x.plan.schedule requested = .ok order) (i : Interleaving) (cancelled : Bool) :
    (∃ n, (x.moment i order cancelled n).isOver = true ∧
      (x.executeIn i requested cancelled).1 = (x.moment i order cancelled n).journal) ∧
    (∀ n, (x.moment i order cancelled n).Orderly x) ∧
    (∀ n t, (x.moment i order cancelled n).Moved (x.moment i order cancelled (n + 1)) t) ∧
    (∀ t m n, (x.moment i order cancelled m).status t = some .pending →
      (x.moment i order cancelled (m + 1)).status t = some .running →
      (x.moment i order cancelled n).status t = some .pending →
      (x.moment i order cancelled (n + 1)).status t = some .running → m = n) ∧
    ∀ t s m n, m ≤ n → (x.moment i order cancelled m).status t = some s → s.isTerminal = true →
      (x.moment i order cancelled n).status t = some s := by
  have ho := Plan.ordered_of_schedule hs
  refine ⟨?_, fun n => ?_, moved_moment ho, fun t m n hm hm' hn hn' => ?_,
    fun t s m n hle hstatus hterm => ?_⟩
  · obtain ⟨n, hn, hover⟩ := exists_moment_loop x i order cancelled
    exact ⟨n, hn ▸ hover, by rw [executeIn_of_ok hs, hn]⟩
  · obtain ⟨hv, hsettled⟩ : (x.moment i order cancelled n).Valid x order ∧
        (x.moment i order cancelled n).Settled x := valid_moment ho n
    exact hv.orderly hsettled (length_inFlight_moment n)
  · -- a target that has been launched is not pending at a later moment
    rcases Nat.lt_trichotomy m n with hlt | heq | hgt
    · exact absurd hn (status_moment_ne_pending ho hlt hm' (by simp))
    · exact heq
    · exact absurd hm (status_moment_ne_pending ho hgt hn' (by simp))
  · obtain ⟨s', hs', hpath⟩ := path_moment ho hle hstatus
    rwa [hpath.of_isTerminal hterm] at hs'

/-- After the first pass over the sample one of the two places is free, for the only pending target
depends on the one in flight. -/
theorem moment_transitions_sample :
    (Sample.runner 2 .obliging).plan.schedule ["app"] = .ok ["base", "app"] ∧
    ((Sample.runner 2 .obliging).moment .fromFront ["base", "app"] false 1).stale = false ∧
    ∀ t, ((Sample.runner 2 .obliging).moment .fromFront ["base", "app"] false 1).status t =
        some .pending →
      ∃ d ∈ (Sample.runner 2 .obliging).plan.dependencies t,
        ((Sample.runner 2 .obliging).moment .fromFront ["base", "app"] false 1).status d ≠
          some .completed := by
  have hs := Sample.schedule_plan 2 .obliging
  obtain ⟨-, horderly, -⟩ := moment_transitions hs .fromFront false
  exact ⟨hs, by rfl, ((horderly 1).busy (by rfl)).resolve_left (by decide +kernel)⟩

end Runner

end Rollout
