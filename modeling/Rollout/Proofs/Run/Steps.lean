import Rollout.Proofs.Run.Invariant

/-!
# What one step changes

`Work.Goes` lists the ways in which work goes on by a step, and `Runner.Next` those in which a run
does. From these lists follows what a step can change at all: the journal grows by at most one
entry, which is of a target in flight (`Next.entries`), a cancellation is not taken back
(`Next.cancelled`), and a target that has ended or was launched stays so (`Next.terminal`,
`Next.hasBegun`).
-/

namespace Rollout

variable {ε α : Type} {world : World} {target : String} {j : Journal}

namespace Work

/-- How some work goes on by a step, in a journal. -/
inductive Goes (world : World) (target : String) (j : Journal) :
    Work ε α → Journal × Progress ε α → Prop where
  | done (value : α) : Goes world target j (.ready (.done value)) (j, .ended (.ok value))
  | fail (error : ε) : Goes world target j (.ready (.fail error)) (j, .ended (.error error))
  | look (next : Bool → Activity ε α) :
    Goes world target j (.ready (.look next)) (j, .left (.ready (next j.cancelled)))
  /-- No round trip is sent once the run is cancelled. -/
  | refused (trip : Trip) (next : Answer → Activity ε α) (h : j.cancelled = true) :
    Goes world target j (.ready (.ask trip next)) (j, .left (.ready (next (.error .cancelled))))
  /-- A round trip is sent and answered at once. -/
  | answered (trip : Trip) (next : Answer → Activity ε α) (h : j.cancelled = false)
    (hp : (world.reply j.entries ⟨target, trip⟩).pauses = []) :
    Goes world target j (.ready (.ask trip next))
      (j.record ⟨target, trip⟩ (world.reply j.entries ⟨target, trip⟩),
        .left (.ready (next (world.reply j.entries ⟨target, trip⟩).answer)))
  /-- A round trip is sent and takes its time. -/
  | sent (trip : Trip) (next : Answer → Activity ε α) (cancels : Bool) (more : List Bool)
    (h : j.cancelled = false)
    (hp : (world.reply j.entries ⟨target, trip⟩).pauses = cancels :: more) :
    Goes world target j (.ready (.ask trip next))
      ((j.record ⟨target, trip⟩ (world.reply j.entries ⟨target, trip⟩)).pause cancels,
        .left (.waiting trip more (world.reply j.entries ⟨target, trip⟩).answer next))
  /-- No round trip that is under way brings an answer once the run is cancelled. -/
  | interrupted (trip : Trip) (pauses : List Bool) (answer : Answer)
    (next : Answer → Activity ε α) (h : j.cancelled = true) :
    Goes world target j (.waiting trip pauses answer next)
      (j, .left (.ready (next (.error .cancelled))))
  | received (trip : Trip) (answer : Answer) (next : Answer → Activity ε α)
    (h : j.cancelled = false) :
    Goes world target j (.waiting trip [] answer next) (j, .left (.ready (next answer)))
  | paused (trip : Trip) (cancels : Bool) (more : List Bool) (answer : Answer)
    (next : Answer → Activity ε α) (h : j.cancelled = false) :
    Goes world target j (.waiting trip (cancels :: more) answer next)
      (j.pause cancels, .left (.waiting trip more answer next))

/-- A step is one of the ways in which work goes on. -/
theorem goes_step (world : World) (target : String) (j : Journal) (w : Work ε α) :
    w.Goes world target j (w.step world target j) := by
  -- along the definition of a step: whether the run is cancelled, and whether an answer takes time
  cases w with
  | ready a =>
    cases a with
    | done value => exact .done value
    | fail error => exact .fail error
    | look next => exact .look next
    | ask trip next =>
      cases hc : j.cancelled with
      | true =>
        simp only [step, hc, if_true]
        exact .refused trip next hc
      | false =>
        cases hp : (world.reply j.entries ⟨target, trip⟩).pauses with
        | nil =>
          simp only [step, hc, hp, Bool.false_eq_true, if_false]
          exact .answered trip next hc hp
        | cons cancels more =>
          simp only [step, hc, hp, Bool.false_eq_true, if_false]
          exact .sent trip next cancels more hc hp
  | waiting trip pauses answer next =>
    cases hc : j.cancelled with
    | true =>
      simp only [step, hc, if_true]
      exact .interrupted trip pauses answer next hc
    | false =>
      cases pauses with
      | nil =>
        simp only [step, hc, Bool.false_eq_true, if_false]
        exact .received trip answer next hc
      | cons cancels more =>
        simp only [step, hc, Bool.false_eq_true, if_false]
        exact .paused trip cancels more answer next hc

/-- A step of some work sends at most one round trip, on behalf of its target, and none at all once
the run is cancelled. -/
theorem Goes.entries {w : Work ε α} {s : Journal × Progress ε α} (h : w.Goes world target j s) :
    s.1.entries = j.entries ∨
      j.cancelled = false ∧ ∃ trip, s.1.entries = ⟨target, trip⟩ :: j.entries := by
  cases h with
  | done _ => exact .inl rfl
  | fail _ => exact .inl rfl
  | look _ => exact .inl rfl
  | refused _ _ _ => exact .inl rfl
  | answered trip _ hc _ => exact .inr ⟨hc, trip, rfl⟩
  | sent trip _ _ _ hc _ => exact .inr ⟨hc, trip, rfl⟩
  | interrupted _ _ _ _ _ => exact .inl rfl
  | received _ _ _ _ => exact .inl rfl
  | paused _ _ _ _ _ _ => exact .inl rfl

end Work

variable {x : Runner} {order : List String} {r r' : Run}

@[simp] theorem Run.journal_goOn (r : Run) (before after : Queue) (target : String)
    (s : Journal × Progress TargetError Unit) :
    (r.goOn before target after s).journal = s.1 := by
  obtain ⟨j, result | work⟩ := s
  · rfl
  · rfl

/-- The targets in flight are the one that goes on and the others. -/
theorem Run.mem_inFlight {before after : Queue} {f g : Flight}
    (hq : r.inFlight = before ++ f :: after) : g ∈ r.inFlight ↔ g = f ∨ g ∈ before ++ after := by
  rw [hq, List.perm_middle.mem_iff, List.mem_cons]

theorem Queue.mem_goOn {before after : Queue} {f g : Flight} :
    g ∈ Queue.goOn before f after ↔ g = f ∨ g ∈ before ++ after := by
  rw [(Queue.goOn_perm before f after).mem_iff, List.mem_cons]

/-- Only the target that goes on may change its status, and it is running before. -/
theorem Run.Valid.status_goOn_of_ne (h : r.Valid x order) {before after : Queue} {f : Flight}
    (hq : r.inFlight = before ++ f :: after) {s : Journal × Progress TargetError Unit} {t : String}
    (ht : r.status t ≠ some .running) :
    (r.goOn before f.target after s).status t = r.status t := by
  obtain ⟨j, result | work⟩ := s
  · rw [status_goOn_ended, if_neg]
    rintro rfl
    exact ht (h.running hq)
  · rfl

namespace Runner.Next

/-- A step of a run sends at most one round trip, on behalf of a target in flight, and none at all
once the run is cancelled. -/
theorem entries (h : x.Next r r') :
    r'.journal.entries = r.journal.entries ∨
      r.journal.cancelled = false ∧ ∃ f ∈ r.inFlight, ∃ trip,
        r'.journal.entries = ⟨f.target, trip⟩ :: r.journal.entries := by
  cases h with
  | cancel => exact .inl rfl
  | pass _ =>
    obtain ⟨hj, -, -⟩ := x.pass_frame r
    exact .inl (congrArg Journal.entries hj)
  | @goOn before after f _ hq =>
    rw [Run.journal_goOn]
    rcases (Work.goes_step x.world f.target r.journal f.work).entries with he | ⟨hc, trip, he⟩
    · exact .inl he
    · exact .inr ⟨hc, f, by simp [hq], trip, he⟩

/-- A step of a run does not take a cancellation back. -/
theorem cancelled (h : x.Next r r') (hc : r.journal.cancelled = true) :
    r'.journal.cancelled = true := by
  cases h with
  | cancel => simp [Run.cancel, Journal.pause]
  | pass _ =>
    obtain ⟨hj, -, -⟩ := x.pass_frame r
    rwa [hj]
  | goOn _ _ =>
    rw [Run.journal_goOn]
    exact Work.cancelled_step hc _

/-- A target that has ended keeps its status. -/
theorem terminal (h : x.Next r r') (hv : r.Valid x order) {t : String} {s : Status}
    (hs : r.status t = some s) (ht : s.isTerminal = true) : r'.status t = some s := by
  cases h with
  | cancel => exact hs
  | pass _ =>
    -- a target that has ended is not pending
    apply x.status_pass_of_ne hs
    rintro rfl
    cases ht
  | goOn _ hq =>
    -- nor is it running
    rw [hv.status_goOn_of_ne hq, hs]
    intro hrun
    cases hs.symm.trans hrun
    cases ht

/-- A target that was launched stays so. -/
theorem hasBegun (h : x.Next r r') {t : String} {s : Status} (hs : r.status t = some s)
    (hb : s.hasBegun = true) : ∃ s', r'.status t = some s' ∧ s'.hasBegun = true := by
  cases h with
  | cancel => exact ⟨s, hs, hb⟩
  | pass _ =>
    refine ⟨s, x.status_pass_of_ne hs ?_, hb⟩
    rintro rfl
    cases hb
  | @goOn before after f _ hq =>
    generalize f.work.step x.world f.target r.journal = p
    obtain ⟨j, result | work⟩ := p
    · rw [Run.status_goOn_ended]
      split
      · -- to complete and to fail both are to have been launched
        exact ⟨_, rfl, by cases result <;> rfl⟩
      · exact ⟨s, hs, hb⟩
    · exact ⟨s, hs, hb⟩

end Runner.Next

end Rollout
