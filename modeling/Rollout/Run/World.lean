import Rollout.Run.Activity

/-!
# The world of a run

How round trips are answered, the journal that a run keeps of them, and what else chance decides
in a run. The reply to a round trip may depend on all that were sent before it; it may cancel the
run, and it may take its time. Which of the targets in flight goes on next is left to an
interleaving, which may also cancel the run between any two steps.
-/

namespace Rollout

/-- A round trip with the target on whose behalf it is sent. -/
structure Entry where
  target : String
  trip : Trip
  deriving DecidableEq, Repr

/-- How a round trip goes on once it is sent. -/
structure Reply where
  answer : Answer
  /-- Whether the run is cancelled at the moment at which the round trip is sent. -/
  cancels : Bool
  /-- One entry for every turn that passes before the answer is there: whether the run is cancelled
  at its beginning. -/
  pauses : List Bool

/-- How round trips are answered, given the ones before it, the latest first. -/
structure World where
  reply : List Entry → Entry → Reply

/-- What happens next in a run: the target at a place in the queue of those in flight goes on, or
the run is cancelled. -/
structure Beat where
  place : Nat
  cancels : Bool
  /-- Whether a cancellation that has not been noticed is noticed now, before the target goes on. -/
  notices : Bool
  deriving DecidableEq, Repr

/-- What happens at each step of a run. -/
abbrev Interleaving :=
  Nat → Beat

/-- The interleaving in which the target at the front of the queue goes on, nobody cancels, and a
cancellation is noticed at once. -/
def Interleaving.fromFront : Interleaving :=
  fun _ => ⟨0, false, true⟩

/-- What a run has sent, the latest first, and whether it is cancelled. -/
structure Journal where
  entries : List Entry
  cancelled : Bool
  deriving DecidableEq

namespace Journal

/-- The journal of a run that has sent nothing. -/
def fresh (cancelled : Bool) : Journal :=
  ⟨[], cancelled⟩

/-- The round trips in the order in which they were sent. -/
def trips (j : Journal) : List Trip :=
  j.entries.reverse.map Entry.trip

/-- The journal after a round trip was sent. -/
def record (j : Journal) (entry : Entry) (reply : Reply) : Journal :=
  ⟨entry :: j.entries, j.cancelled || reply.cancels⟩

/-- The journal after a turn in which the run may have been cancelled. -/
def pause (j : Journal) (cancels : Bool) : Journal :=
  ⟨j.entries, j.cancelled || cancels⟩

end Journal

namespace World

/-- The world in which every round trip succeeds at once and brings no rows. -/
def obliging : World :=
  ⟨fun _ _ => ⟨.ok [], false, []⟩⟩

end World

end Rollout
