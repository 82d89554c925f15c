import Rollout.Proofs.Run.Statuses

/-!
# The moments of a run

`Runner.moment` is a run after a number of steps. Whatever the interleaving, a step of a run that is
not over is its cancellation, a pass that is due, or a step of one target in flight
(`Runner.Next`), so what these three keep holds at every moment (`moment_keeps`). Every run comes to
a moment at which it is over, and stays as it is then (`exists_moment_loop`).
-/

namespace Rollout.Runner

variable {x : Runner} {i : Interleaving} {order : List String} {cancelled : Bool}

/-- A run after a number of steps. -/
def moment (x : Runner) (i : Interleaving) (order : List String) (cancelled : Bool) : Nat → Run
  | 0 => Run.start order cancelled
  | n + 1 => x.step (i n) (x.moment i order cancelled n)

/-- What can come of a run by a step. -/
inductive Next (x : Runner) (r : Run) : Run → Prop where
  | cancel : Next x r r.cancel
  | pass (h : r.isDue = true) : Next x r (x.pass r)
  | goOn {before after : Queue} {f : Flight} (hs : r.stale = false)
    (hq : r.inFlight = before ++ f :: after) :
    Next x r (r.goOn before f.target after (f.work.step x.world f.target r.journal))

/-- A run that is over stays as it is. -/
theorem step_of_isOver {r : Run} (h : r.isOver = true) (beat : Beat) : x.step beat r = r := by
  simp [step, h]

/-- A step of a run that is not over is its cancellation, if the beat cancels, a pass that is due,
or a step of one target in flight. -/
theorem step_cases {r : Run} (h : r.isOver = false) (beat : Beat) :
    (beat.cancels = true ∧ x.step beat r = r.cancel) ∨
    (r.isDue = true ∧ x.step beat r = x.pass r) ∨
    ∃ before f after, r.stale = false ∧ r.inFlight = before ++ f :: after ∧
      x.step beat r =
        r.goOn before f.target after (f.work.step x.world f.target r.journal) := by
  simp only [step, h, Bool.false_eq_true, if_false]
  split
  · exact .inl (by simp_all)
  · split
    · exact .inr (.inl (by simp_all))
    · rename_i hno
      have hne : r.inFlight ≠ [] := fun hq => by simp_all [Run.isOver]
      have hs : r.stale = false := by
        cases hs : r.stale with
        | false => rfl
        | true => simp [Run.isDue, hs] at hno
      obtain ⟨before, f, after, hq, he⟩ := advance_eq x beat.place hne
      exact .inr (.inr ⟨before, f, after, hs, hq, he⟩)

theorem step_of_not_isOver {r : Run} (h : r.isOver = false) (beat : Beat) :
    x.Next r (x.step beat r) := by
  rcases step_cases h beat with ⟨-, he⟩ | ⟨hd, he⟩ | ⟨before, f, after, hs, hq, he⟩
  · exact he ▸ .cancel
  · exact he ▸ .pass hd
  · exact he ▸ .goOn hs hq

/-- What holds at a moment and is kept by everything that can happen holds at every later moment. -/
theorem moment_keeps_from {P : Run → Prop} {m n : Nat} (hle : m ≤ n)
    (hm : P (x.moment i order cancelled m)) (hnext : ∀ {r r'}, P r → x.Next r r' → P r') :
    P (x.moment i order cancelled n) := by
  induction n, hle using Nat.le_induction with
  | base => exact hm
  | succ n _ ih =>
    cases ho : (x.moment i order cancelled n).isOver with
    | true => rwa [moment, step_of_isOver ho]
    | false => exact hnext ih (step_of_not_isOver ho _)

/-- What holds at the start and is kept by everything that can happen holds at every moment. -/
theorem moment_keeps {P : Run → Prop} (hstart : P (Run.start order cancelled))
    (hnext : ∀ {r r'}, P r → x.Next r r' → P r') (n : Nat) :
    P (x.moment i order cancelled n) :=
  moment_keeps_from (Nat.zero_le n) hstart hnext

/-- From a moment at which it is over a run stays as it is. -/
theorem moment_of_isOver {m n : Nat} (h : m ≤ n)
    (ho : (x.moment i order cancelled m).isOver = true) :
    x.moment i order cancelled n = x.moment i order cancelled m := by
  induction n, h using Nat.le_induction with
  | base => rfl
  | succ n _ ih => rw [moment, ih, step_of_isOver ho]

/-- Every run comes to a moment at which it is over. -/
theorem exists_moment_loop (x : Runner) (i : Interleaving) (order : List String)
    (cancelled : Bool) :
    ∃ n, x.moment i order cancelled n = x.ended i order cancelled ∧
      (x.ended i order cancelled).isOver = true := by
  -- the loop goes on from a moment to the next one
  have hloop : ∀ k r, r = x.moment i order cancelled k →
      ∃ n, x.moment i order cancelled n = x.loop i k r ∧ (x.loop i k r).isOver = true := by
    intro k r hr
    fun_induction loop x i k r with
    | case1 k r h => exact ⟨k, hr.symm, h⟩
    | case2 k r _ ih => exact ih (by rw [hr, moment])
  exact hloop 0 _ rfl

/-- A run is at its end when it is over. -/
theorem ended_eq_moment {m : Nat} (h : (x.moment i order cancelled m).isOver = true) :
    x.ended i order cancelled = x.moment i order cancelled m := by
  obtain ⟨n, hn, ho⟩ := exists_moment_loop x i order cancelled
  rcases Nat.le_total m n with hle | hle
  · exact hn.symm.trans (moment_of_isOver hle h)
  · exact ((moment_of_isOver hle (hn ▸ ho)).trans hn).symm

/-- What holds at a moment and is kept by everything that can happen holds at the end. -/
theorem ended_keeps {P : Run → Prop} {m : Nat} (hm : P (x.moment i order cancelled m))
    (hnext : ∀ {r r'}, P r → x.Next r r' → P r') : P (x.ended i order cancelled) := by
  obtain ⟨n, hn, ho⟩ := exists_moment_loop x i order cancelled
  rcases Nat.le_total m n with h | h
  · exact hn ▸ moment_keeps_from h hm hnext
  · rwa [← hn, ← moment_of_isOver h (hn ▸ ho)]

end Rollout.Runner
