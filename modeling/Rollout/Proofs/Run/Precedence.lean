import Rollout.Proofs.Run.Ending
import Rollout.Proofs.Run.Steps

/-!
# Dependencies come first

Whatever a target that was launched depends on, directly or not, has completed
(`Run.Valid.upstream_completed`). A round trip is sent only on behalf of a target in flight, so at
every step that sends one the dependencies of its target have completed
(`upstream_completed_of_sent`), and the round trips of a target stand in the journal before those of
the targets that depend on it (`sent_moment`).
-/

namespace Rollout

variable {x : Runner} {order : List String} {i : Interleaving} {cancelled : Bool} {r r' : Run}

namespace Run

/-- Whatever a target that was launched depends on, directly or not, has completed. -/
theorem Valid.upstream_completed (h : r.Valid x order) {t d : String} {s : Status}
    (hs : r.status t = some s) (hb : s.hasBegun = true) (hd : x.plan.Upstream t d) :
    r.status d = some .completed := by
  induction hd with
  | single hd => exact h.begun t s hs hb _ hd
  | tail _ hd ih => exact h.begun _ _ ih rfl _ hd

/-- What holds of the journal of a run: its round trips are those of targets that were launched, and
none of them was sent after one of a target that depends on its own. -/
structure Sent (p : Plan) (r : Run) : Prop where
  begun : ∀ e ∈ r.journal.entries, ∃ s, r.status e.target = some s ∧ s.hasBegun = true
  sorted : r.journal.entries.Pairwise fun later earlier => ¬ p.Upstream earlier.target later.target

namespace Sent

theorem start (p : Plan) (order : List String) (cancelled : Bool) :
    (start order cancelled).Sent p :=
  ⟨by simp [Run.start, Journal.fresh], .nil⟩

theorem next (h : r.Sent x.plan) (hv : r.Valid x order) (hr : x.Next r r') : r'.Sent x.plan := by
  have hbegun : ∀ e ∈ r.journal.entries, ∃ s, r'.status e.target = some s ∧ s.hasBegun = true := by
    intro e he
    obtain ⟨s, hs, hb⟩ := h.begun e he
    exact hr.hasBegun hs hb
  rcases hr.entries with he | ⟨-, f, hf, trip, he⟩
  · exact ⟨he ▸ hbegun, he ▸ h.sorted⟩
  · have hrun : r.status f.target = some .running := (hv.flying _).2 (List.mem_map.2 ⟨f, hf, rfl⟩)
    refine ⟨fun e hmem => ?_, ?_⟩
    · rcases List.mem_cons.1 (he ▸ hmem) with rfl | hmem
      · exact hr.hasBegun hrun rfl
      · exact hbegun e hmem
    · -- a target that acts is running, so nothing that was launched before depends on it
      rw [he]
      refine List.pairwise_cons.2 ⟨fun e hmem hd => ?_, h.sorted⟩
      obtain ⟨s, hs, hb⟩ := h.begun e hmem
      cases hrun.symm.trans (hv.upstream_completed hs hb hd)

end Sent

end Run

namespace Runner

/-- At every moment the journal holds round trips of launched targets only, those of dependencies
first. -/
theorem sent_moment (ho : x.plan.Ordered order) (n : Nat) :
    (x.moment i order cancelled n).Sent x.plan := by
  have h : (x.moment i order cancelled n).Valid x order ∧
      (x.moment i order cancelled n).Sent x.plan :=
    moment_keeps (P := fun r => r.Valid x order ∧ r.Sent x.plan)
      ⟨.start x ho.nodup cancelled, .start x.plan order cancelled⟩
      (fun ⟨hv, hs⟩ hr => ⟨hv.next hr, hs.next hv hr⟩) n
  exact h.2

/-- When a round trip is sent whatever its target depends on has completed. -/
theorem upstream_completed_of_sent (ho : x.plan.Ordered order) (n : Nat) :
    (x.moment i order cancelled (n + 1)).journal.entries =
        (x.moment i order cancelled n).journal.entries ∨
      ∃ e, (x.moment i order cancelled (n + 1)).journal.entries =
          e :: (x.moment i order cancelled n).journal.entries ∧
        ∀ d, x.plan.Upstream e.target d →
          (x.moment i order cancelled n).status d = some .completed := by
  have hv : (x.moment i order cancelled n).Valid x order := (valid_moment ho n).1
  cases hover : (x.moment i order cancelled n).isOver with
  | true => exact .inl (by rw [moment, step_of_isOver hover])
  | false =>
    rcases (step_of_not_isOver hover (i n)).entries with he | ⟨-, f, hf, trip, he⟩
    · exact .inl he
    · have hrun := (hv.flying f.target).2 (List.mem_map.2 ⟨f, hf, rfl⟩)
      exact .inr ⟨_, he, fun d hd => hv.upstream_completed hrun rfl hd⟩

/-- No target of a compiled plan acts before what it depends on, directly or not, is done, whatever
the world answers, in whichever order targets go on and whenever the run is cancelled. At each step
that sends a round trip every dependency of its target has completed. So in the journal no round
trip stands behind one of a target that depends on its own, and there is none of a target with a
dependency that does not complete. -/
theorem executeIn_dependencies_first {m : Manifest} {supplied : Params} {base? : Option String}
    (h : m.compile supplied base? = .ok x.plan) (i : Interleaving) (requested : List String)
    (cancelled : Bool) :
    (∀ order, x.plan.schedule requested = .ok order →
      (∃ n, (x.moment i order cancelled n).isOver = true ∧
        (x.executeIn i requested cancelled).1 = (x.moment i order cancelled n).journal) ∧
      ∀ n, (x.moment i order cancelled (n + 1)).journal.entries =
          (x.moment i order cancelled n).journal.entries ∨
        ∃ e, (x.moment i order cancelled (n + 1)).journal.entries =
            e :: (x.moment i order cancelled n).journal.entries ∧
          ∀ d, x.plan.Upstream e.target d →
            (x.moment i order cancelled n).status d = some .completed) ∧
    (x.executeIn i requested cancelled).1.entries.Pairwise
      (fun later earlier => ¬ x.plan.Upstream earlier.target later.target) ∧
    ∀ t d, x.plan.Upstream t d →
      (∀ order, x.plan.schedule requested = .ok order →
        (x.ended i order cancelled).status d ≠ some .completed) →
      ∀ e ∈ (x.executeIn i requested cancelled).1.entries, e.target ≠ t := by
  have hp := Manifest.closed_of_compile h
  cases hs : x.plan.schedule requested with
  | error e =>
    rw [executeIn_of_error hs]
    refine ⟨fun order ho => ?_, .nil, fun t d _ _ e he => ?_⟩
    · cases ho
    · cases he
  | ok order =>
    have ho := (Plan.runnable_of_schedule hp hs).1.toOrdered
    obtain ⟨n, hn, hover⟩ := exists_moment_loop x i order cancelled
    have hsent : (x.ended i order cancelled).Sent x.plan := hn ▸ sent_moment ho n
    rw [executeIn_of_ok hs]
    refine ⟨fun order' ho' => ?_, hsent.sorted, fun t d hd hne e he ht => ?_⟩
    · cases ho'
      exact ⟨⟨n, hn ▸ hover, hn ▸ rfl⟩, fun n => upstream_completed_of_sent ho n⟩
    · obtain ⟨s, hstatus, hb⟩ := hsent.begun e he
      have hv : (x.ended i order cancelled).Valid x order := (valid_ended ho).1
      exact hne order rfl (hv.upstream_completed hstatus hb (ht ▸ hd))

/-- Where the instance of the first target of the sample refuses connections, the second target
sends nothing. -/
theorem executeIn_dependencies_first_sample :
    Sample.manifest.compile .empty none = .ok (Sample.runner 2 (Sample.refusing [])).plan ∧
    (Sample.runner 2 (Sample.refusing [])).plan.Upstream "app" "base" ∧
    ∀ e ∈ ((Sample.runner 2 (Sample.refusing [])).executeIn .fromFront ["app"] false).1.entries,
      e.target ≠ "app" := by
  have h := Sample.compile_manifest 2 (Sample.refusing [])
  have hs := Sample.schedule_plan 2 (Sample.refusing [])
  have hd : (Sample.runner 2 (Sample.refusing [])).plan.Upstream "app" "base" :=
    .single (by decide +kernel)
  have hover : ((Sample.runner 2 (Sample.refusing [])).moment .fromFront ["base", "app"] false
      9).isOver = true := by rfl
  obtain ⟨-, -, hnone⟩ := executeIn_dependencies_first h .fromFront ["app"] false
  refine ⟨h, hd, hnone "app" "base" hd fun order ho => ?_⟩
  cases hs.symm.trans ho
  rw [ended_eq_moment hover]
  decide +kernel

end Runner

end Rollout
