import Rollout.Run.World

/-!
# Work

What remains of an activity while a run goes on, and the single step by which it goes on: it ends,
looks whether the run has been cancelled, sends a round trip or learns of its answer. Once the run
is cancelled no round trip is sent, and none that is under way brings an answer: in both cases the
activity learns of the cancellation instead.
-/

namespace Rollout

/-- What remains of an activity. -/
inductive Work (ε α : Type) where
  /-- An activity that goes on with its next step. -/
  | ready (activity : Activity ε α)
  /-- A round trip that was sent, the turns that still pass, its answer and what follows. -/
  | waiting (trip : Trip) (pauses : List Bool) (answer : Answer) (next : Answer → Activity ε α)

/-- What a step makes of work. -/
inductive Progress (ε α : Type) where
  | ended (result : Except ε α)
  | left (work : Work ε α)

variable {ε α : Type}

namespace Activity

/-- Goes on with an activity that is alone, however long its round trips take. -/
def finish (world : World) (target : String) : Activity ε α → Journal → Journal × Except ε α
  | done value, j => (j, .ok value)
  | fail error, j => (j, .error error)
  | look next, j => (next j.cancelled).finish world target j
  | ask trip next, j =>
    if j.cancelled then (next (.error .cancelled)).finish world target j
    else
      let reply := world.reply j.entries ⟨target, trip⟩
      let sent := j.record ⟨target, trip⟩ reply
      let j := reply.pauses.foldl Journal.pause sent
      if !reply.pauses.isEmpty && j.cancelled then
        (next (.error .cancelled)).finish world target j
      else (next reply.answer).finish world target j

end Activity

namespace Work

/-- Whether work waits for the answer to a round trip. -/
def isWaiting : Work ε α → Bool
  | ready _ => false
  | waiting .. => true

/-- One step of some work. A round trip that takes no time is answered as it is sent. -/
def step (world : World) (target : String) (j : Journal) : Work ε α → Journal × Progress ε α
  | ready (.done value) => (j, .ended (.ok value))
  | ready (.fail error) => (j, .ended (.error error))
  | ready (.look next) => (j, .left (.ready (next j.cancelled)))
  | ready (.ask trip next) =>
    if j.cancelled then (j, .left (.ready (next (.error .cancelled))))
    else
      let reply := world.reply j.entries ⟨target, trip⟩
      let sent := j.record ⟨target, trip⟩ reply
      match reply.pauses with
      | [] => (sent, .left (.ready (next reply.answer)))
      | cancels :: more => (sent.pause cancels, .left (.waiting trip more reply.answer next))
  | waiting trip pauses answer next =>
    if j.cancelled then (j, .left (.ready (next (.error .cancelled))))
    else match pauses with
      | [] => (j, .left (.ready (next answer)))
      | cancels :: more => (j.pause cancels, .left (.waiting trip more answer next))

/-- A step does not take a cancellation back. -/
theorem cancelled_step {world : World} {target : String} {j : Journal} (h : j.cancelled = true)
    (w : Work ε α) : (w.step world target j).1.cancelled = true := by
  cases w with
  | ready a => cases a <;> simp [step, h]
  | waiting => simp [step, h]

/-- The activity at which work stands: the one that begins with the round trip under way, or the
whole. -/
def activity : Work ε α → Activity ε α
  | ready a => a
  | waiting trip _ _ next => .ask trip next

/-- Work that can go on counts for more than work that waits. -/
def readyCount : Work ε α → Nat
  | ready _ => 1
  | waiting .. => 0

/-- The number of turns that still pass before the answer to the round trip under way is there. -/
def pauseCount : Work ε α → Nat
  | ready _ => 0
  | waiting _ pauses _ _ => pauses.length

/-- The order in which work shrinks: the activity at which it stands goes on, or its round trip is
sent, or the round trip under way takes one turn less. -/
instance order : WellFoundedRelation (Work ε α) :=
  invImage (fun w => (w.activity, w.readyCount, w.pauseCount))
    (Prod.lex ⟨Activity.Follows, Activity.wellFounded_follows⟩
      (Prod.lex Nat.lt_wfRel Nat.lt_wfRel))

/-- Work that has had its answer is closer to its end. -/
theorem order_of_follows {w w' : Work ε α} (h : Activity.Follows w'.activity w.activity) :
    order.rel w' w :=
  Prod.Lex.left _ _ h

/-- Work that has sent its round trip is closer to its answer. -/
theorem order_of_sent {w w' : Work ε α} (h : w'.activity = w.activity)
    (hr : w'.readyCount < w.readyCount) : order.rel w' w := by
  show Prod.Lex _ _ (w'.activity, w'.readyCount, w'.pauseCount) _
  rw [h]
  exact Prod.Lex.right _ (Prod.Lex.left _ _ hr)

/-- Work that has paused once has one pause less before its answer. -/
theorem order_of_pause {w w' : Work ε α} (h : w'.activity = w.activity)
    (hr : w'.readyCount = w.readyCount) (hp : w'.pauseCount < w.pauseCount) :
    order.rel w' w := by
  show Prod.Lex _ _ (w'.activity, w'.readyCount, w'.pauseCount) _
  rw [h, hr]
  exact Prod.Lex.right _ (Prod.Lex.right _ hp)

/-- Work that is not ended by a step shrinks in it. -/
theorem order_of_step {world : World} {target : String} {w w' : Work ε α} {j j' : Journal}
    (h : w.step world target j = (j', .left w')) : order.rel w' w := by
  cases w with
  | ready a =>
    cases a with
    | done _ => cases h
    | fail _ => cases h
    | look next =>
      cases h
      exact order_of_follows (.look next _)
    | ask trip next =>
      simp only [step] at h
      split at h
      · cases h
        exact order_of_follows (.ask trip next _)
      · split at h
        · cases h
          exact order_of_follows (.ask trip next _)
        · cases h
          exact order_of_sent rfl Nat.one_pos
  | waiting trip pauses answer next =>
    simp only [step] at h
    split at h
    · cases h
      exact order_of_follows (.ask trip next _)
    · split at h
      · cases h
        exact order_of_follows (.ask trip next _)
      · cases h
        exact order_of_pause rfl rfl (by simp [pauseCount])

end Work

end Rollout
