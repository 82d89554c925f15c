import Rollout.Proofs.Run.Steps

/-!
# What work comes to alone

An activity that is alone goes on to its end (`Activity.finish`): one after the other two activities
come to what the second makes of the first (`finish_bind`), and what a target does comes to its
steps, each to its end, up to the first that fails (`finish_attemptAll`). Whatever work is left by a
step comes to the same as before it, also where a round trip is under way (`Goes.conclude_left`), so
work that goes on by steps ends as it does alone (`Goes.conclude_ended`).
-/

namespace Rollout

variable {ε ε' α β : Type} {world : World} {target : String} {j j' : Journal}

/-- A cancelled journal stays as it is while turns pass. -/
theorem Journal.foldl_pause_of_cancelled (h : j.cancelled = true) (pauses : List Bool) :
    pauses.foldl Journal.pause j = j := by
  induction pauses with
  | nil => rfl
  | cons cancels r ih =>
    have hsame : j.pause cancels = j := by rw [pause, h, Bool.true_or, ← h]
    rw [List.foldl_cons, hsame, ih]

namespace Activity

theorem finish_ofResult (world : World) (target : String) (result : Except ε α) (j : Journal) :
    (ofResult result).finish world target j = (j, result) := by
  cases result with
  | ok value => rfl
  | error e => rfl

/-- One activity after the other: the second goes on from the journal and the value of the first,
unless that fails. -/
theorem finish_bind (world : World) (target : String) (a : Activity ε α) (f : α → Activity ε β)
    (j : Journal) :
    (a >>= f).finish world target j =
      match a.finish world target j with
      | (j', .ok value) => (f value).finish world target j'
      | (j', .error e) => (j', .error e) := by
  change (a.bind f).finish world target j = _
  induction a generalizing j with
  | done value => rfl
  | fail e => rfl
  | look next ih => exact ih j.cancelled j
  | ask trip next ih =>
    simp only [bind, finish]
    split
    · exact ih _ _
    · split
      · exact ih _ _
      · exact ih _ _

/-- To turn a result into another one sends nothing. -/
theorem finish_mapResult (world : World) (target : String) (a : Activity ε α)
    (f : Except ε α → Except ε' β) (j : Journal) :
    (a.mapResult f).finish world target j =
      ((a.finish world target j).1, f (a.finish world target j).2) := by
  induction a generalizing j with
  | done value => exact finish_ofResult world target _ j
  | fail e => exact finish_ofResult world target _ j
  | look next ih => exact ih j.cancelled j
  | ask trip next ih =>
    simp only [mapResult, finish]
    split
    · exact ih _ _
    · split
      · exact ih _ _
      · exact ih _ _

/-- No activity takes a cancellation back. -/
theorem cancelled_finish (h : j.cancelled = true) (a : Activity ε α) :
    (a.finish world target j).1.cancelled = true := by
  induction a with
  | done value => exact h
  | fail e => exact h
  | look next ih => exact ih j.cancelled
  | ask trip next ih =>
    rw [finish, if_pos h]
    exact ih _

end Activity

open Activity

/-- Steps of a target one after the other, each to its end, up to the first that fails. -/
def performAll (files : Files) (world : World) (target : String) :
    List Step → Journal → Journal × Except TargetError Unit
  | [], j => (j, .ok ())
  | s :: r, j =>
    match (s.activity files).finish world target j with
    | (j', .ok _) => performAll files world target r j'
    | (j', .error cause) => (j', .error ⟨target, s.instanceName, s.describe, cause⟩)

/-- What a target does before each of its steps is to look at the cancellation. -/
theorem finish_attempt (files : Files) (s : Step) (hj : j.cancelled = false) :
    (s.attempt files target).finish world target j =
      (((s.activity files).finish world target j).1,
        ((s.activity files).finish world target j).2.mapError
          (TargetError.mk target s.instanceName s.describe)) := by
  simp only [Step.attempt, finish, hj, Bool.false_eq_true, if_false]
  exact finish_mapResult world target (s.activity files) _ j

/-- What a target does alone, as long as nobody cancels, are its steps one after the other. -/
theorem finish_attemptAll {files : Files} {steps : List Step}
    (h : ((attemptAll files target steps).finish world target j).1.cancelled = false) :
    (attemptAll files target steps).finish world target j =
      performAll files world target steps j := by
  have hback : ∀ {j : Journal} {a : Activity TargetError Unit},
      (a.finish world target j).1.cancelled = false → j.cancelled = false := fun hend =>
    Bool.eq_false_iff.2 fun hj => by
      rw [cancelled_finish hj] at hend
      cases hend
  induction steps generalizing j with
  | nil => rfl
  | cons s r ih =>
    have hj := hback h
    have hbind : (attemptAll files target (s :: r)).finish world target j = _ :=
      finish_bind world target (s.attempt files target) (fun _ => attemptAll files target r) j
    rw [finish_attempt files s hj] at hbind
    rw [hbind] at h ⊢
    rw [performAll]
    generalize (s.activity files).finish world target j = p at h ⊢
    obtain ⟨j', result⟩ := p
    cases result with
    | ok value => exact ih h
    | error cause => rfl

namespace Work

/-- What work comes to alone. A round trip that is under way is answered after the turns that still
pass, unless the run is cancelled by then. -/
def conclude (world : World) (target : String) : Work ε α → Journal → Journal × Except ε α
  | ready a, j => a.finish world target j
  | waiting _ pauses answer next, j =>
    let j := pauses.foldl Journal.pause j
    if j.cancelled then (next (.error .cancelled)).finish world target j
    else (next answer).finish world target j

variable {w w' : Work ε α}

/-- A step leaves of work what comes to the same. -/
theorem Goes.conclude_left (h : w.Goes world target j (j', .left w')) :
    w'.conclude world target j' = w.conclude world target j := by
  cases h with
  | look next => rfl
  | refused trip next hc => simp only [conclude, finish, hc, if_true]
  | answered trip next hc hp => simp [conclude, finish, hc, hp]
  | sent trip next cancels more hc hp => simp [conclude, finish, hc, hp]
  | interrupted trip pauses answer next hc =>
    simp only [conclude, Journal.foldl_pause_of_cancelled hc, hc, if_true]
  | received trip answer next hc => simp [conclude, hc]
  | paused trip cancels more answer next hc => rfl

/-- Work that a step ends has come to what it comes to alone. -/
theorem Goes.conclude_ended {result : Except ε α}
    (h : w.Goes world target j (j', .ended result)) :
    w.conclude world target j = (j', result) := by
  cases h with
  | done value => rfl
  | fail e => rfl

end Work

end Rollout
