import Rollout.Plan
import Rollout.Run.Flight
import Rollout.Run.Status

/-!
# The schedule of a run

A run goes in steps. A step is a pass over the targets, a step of one target in flight, or the
cancellation of the run. A pass skips every pending target if the run has been cancelled, then skips
the targets that depend on one that failed or was skipped, and launches the targets whose
dependencies have completed, as many as may be in flight. A pass is due at the start, whenever a
target has ended, and once the run is cancelled; in the last case targets in flight may go on before
it. The run is over when no pass is due and nothing is in flight.
-/

namespace Rollout

/-- What a run is carried out with: the plan, the files that scripts are read from, the world that
answers, and the number of targets that may be in flight. -/
structure Runner where
  plan : Plan
  files : Files
  world : World
  maxParallel : Nat

/-- A run between two steps: the status of each target in the order of execution, the queue of the
targets in flight, the journal, whether a cancellation has been noticed, and whether a target has
ended, or the run has begun, since the last pass. -/
structure Run where
  statuses : Listing Status
  inFlight : Queue
  journal : Journal
  noticed : Bool
  stale : Bool

namespace Run

/-- A run with nothing begun. -/
def start (order : List String) (cancelled : Bool) : Run :=
  ⟨Listing.ofList (order.map fun name => (name, .pending)), [], Journal.fresh cancelled, false,
    true⟩

/-- Whether a target is pending. -/
def isPending (r : Run) (name : String) : Bool :=
  r.statuses.get? name == some .pending

/-- Whether a pass is due. -/
def isDue (r : Run) : Bool :=
  r.stale || (r.journal.cancelled && !r.noticed)

/-- Whether nothing more happens in a run. -/
def isOver (r : Run) : Bool :=
  !r.isDue && r.inFlight.isEmpty

/-- The run after a pass over the targets. -/
def settle (r : Run) : Run :=
  { r with stale := false }

/-- The run after its cancellation. -/
def cancel (r : Run) : Run :=
  { r with journal := r.journal.pause true }

/-- The run after a look at the cancellation: the first time it is seen, whatever is pending is
skipped. -/
def notice (r : Run) : Run :=
  if !r.noticed && r.journal.cancelled then
    { r with
      statuses := r.statuses.map fun _ s => if s = .pending then .skipped .cancelled else s
      noticed := true }
  else r

end Run

/-- Whether a target has failed or was skipped. -/
def Status.blocks : Option Status → Bool
  | some s => s.isFailed || s.isSkipped
  | none => false

/-- Statuses after one look at each target of a list: a pending one with a dependency that failed
or was skipped is skipped for the first such dependency. -/
def skipBlocked (plan : Plan) : List String → Listing Status → Listing Status
  | [], statuses => statuses
  | name :: more, statuses =>
    if statuses.get? name = some .pending then
      match (plan.dependencies name).find? fun d => Status.blocks (statuses.get? d) with
      | some d => skipBlocked plan more (statuses.put name (.skipped (.dependency d)))
      | none => skipBlocked plan more statuses
    else skipBlocked plan more statuses

namespace Runner

/-- The number of targets that may be in flight, which is one at least. -/
def limit (x : Runner) : Nat :=
  max 1 x.maxParallel

/-- Whether a target is pending and all its dependencies have completed. -/
def isReady (x : Runner) (r : Run) (name : String) : Bool :=
  r.isPending name &&
    (x.plan.dependencies name).all fun d => r.statuses.get? d == some .completed

/-- The run with a target launched. -/
def launchOne (x : Runner) (r : Run) (name : String) : Run :=
  { r with
    statuses := r.statuses.put name .running
    inFlight := r.inFlight ++
      [⟨name, .ready (attemptAll x.files name (x.plan.steps name))⟩] }

/-- The run with the ready targets of a list launched, as long as there is room. -/
def launch (x : Runner) : List String → Run → Run
  | [], r => r
  | name :: more, r =>
    if r.inFlight.length < x.limit && x.isReady r name then x.launch more (x.launchOne r name)
    else x.launch more r

/-- The run with every blocked target skipped. -/
def skip (x : Runner) (r : Run) : Run :=
  { r with statuses := skipBlocked x.plan r.statuses.names r.statuses }

/-- The run with as many ready targets launched as there is room for. Once a cancellation has been
noticed nothing is launched. -/
def fill (x : Runner) (r : Run) : Run :=
  if r.noticed then r else x.launch r.statuses.names r

/-- A pass over the targets, after which none is due. -/
def pass (x : Runner) (r : Run) : Run :=
  (x.fill (x.skip r.notice)).settle

end Runner

namespace Run

/-- The run after a target in flight, which stands in the queue between `before` and `after`, has
gone on. -/
def goOn (r : Run) (before : Queue) (target : String) (after : Queue) :
    Journal × Progress TargetError Unit → Run
  | (journal, .ended result) =>
    { r with
      statuses := r.statuses.put target (.ofResult result)
      inFlight := before ++ after
      journal
      stale := true }
  | (journal, .left work) =>
    { r with inFlight := Queue.goOn before ⟨target, work⟩ after, journal }

end Run

namespace Runner

/-- The run after the target at a place in the queue has gone on. -/
def advance (x : Runner) (place : Nat) (r : Run) : Run :=
  let k := place % r.inFlight.length
  match r.inFlight.drop k with
  | [] => r
  | f :: after =>
    r.goOn (r.inFlight.take k) f.target after (f.work.step x.world f.target r.journal)

/-- A step of a run. -/
def step (x : Runner) (beat : Beat) (r : Run) : Run :=
  if r.isOver then r
  else if beat.cancels && !r.journal.cancelled then r.cancel
  else if r.isDue && (r.stale || beat.notices || r.inFlight.isEmpty) then x.pass r
  else x.advance beat.place r

end Runner

namespace Run

/-- The number of targets that are pending. -/
def pendingCount (r : Run) : Nat :=
  r.statuses.entries.countP fun p => p.2 = .pending

end Run

/-- A status that is not pending makes no more targets pending. -/
theorem countP_putPair_le (name : String) {s : Status} (l : List (String × Status))
    (hs : s ≠ .pending) :
    (putPair name s l).countP (fun p => p.2 = .pending) ≤ l.countP fun p => p.2 = .pending := by
  induction l with
  | nil => simp [putPair, hs]
  | cons p r ih =>
    obtain ⟨n, v⟩ := p
    by_cases hn : n = name
    · simp [putPair, hn, hs, List.countP_cons]
    · simp only [putPair, hn, if_false, List.countP_cons]
      omega

/-- A pending target that is given another status is one pending target less. -/
theorem countP_putPair_of_pending {name : String} {s : Status} (l : List (String × Status))
    (hs : s ≠ .pending) (h : lookPair name l = some .pending) :
    (putPair name s l).countP (fun p => p.2 = .pending) + 1 =
      l.countP fun p => p.2 = .pending := by
  induction l with
  | nil => simp [lookPair] at h
  | cons p r ih =>
    obtain ⟨n, v⟩ := p
    by_cases hn : n = name
    · simp only [lookPair, hn, if_true, Option.some.injEq] at h
      simp [putPair, hn, hs, h]
    · simp only [lookPair, hn, if_false] at h
      have := ih h
      simp only [putPair, hn, if_false, List.countP_cons]
      omega

/-- To skip targets makes no more of them pending. -/
theorem countP_skipBlocked_le (plan : Plan) (names : List String) (statuses : Listing Status) :
    (skipBlocked plan names statuses).entries.countP (fun p => p.2 = .pending) ≤
      statuses.entries.countP fun p => p.2 = .pending := by
  fun_induction skipBlocked plan names statuses with
  | case1 => exact Nat.le_refl _
  | case2 _ _ _ _ _ _ ih => exact Nat.le_trans ih (countP_putPair_le _ _ (by simp))
  | case3 _ _ _ _ _ ih => exact ih
  | case4 _ _ _ _ ih => exact ih

namespace Runner

/-- A launch moves targets from the pending ones to those in flight. -/
theorem pendingCount_launch (x : Runner) (names : List String) (r : Run) :
    (x.launch names r).pendingCount + (x.launch names r).inFlight.length =
      r.pendingCount + r.inFlight.length := by
  fun_induction launch x names r with
  | case1 => rfl
  | case2 name more r h ih =>
    rw [ih]
    have hp : lookPair name r.statuses.entries = some .pending := by
      simp only [isReady, Run.isPending, Bool.and_eq_true, beq_iff_eq] at h
      exact h.2.1
    have := countP_putPair_of_pending (s := .running) r.statuses.entries (by simp) hp
    simp only [launchOne, Run.pendingCount, Listing.put, List.length_append, List.length_cons,
      List.length_nil]
    omega
  | case3 _ _ _ _ ih => exact ih

/-- To notice a cancellation touches no target in flight. -/
@[simp] theorem inFlight_notice (r : Run) : r.notice.inFlight = r.inFlight := by
  unfold Run.notice
  split
  · rfl
  · rfl

/-- To notice a cancellation makes no more targets pending. -/
theorem pendingCount_notice (r : Run) : r.notice.pendingCount ≤ r.pendingCount := by
  unfold Run.notice
  split
  · -- whatever is pending after the sweep was pending before
    simp only [Run.pendingCount, Listing.map, List.countP_map]
    refine List.countP_mono_left fun p _ h => ?_
    simp only [Function.comp, decide_eq_true_eq] at h ⊢
    split at h <;> simp_all
  · exact Nat.le_refl _

/-- To fill the free slots moves targets from the pending ones to those in flight. -/
theorem pendingCount_fill (x : Runner) (r : Run) :
    (x.fill r).pendingCount + (x.fill r).inFlight.length =
      r.pendingCount + r.inFlight.length := by
  unfold fill
  split
  · rfl
  · exact pendingCount_launch x _ r

/-- A pass leaves no more targets to be done than there were. -/
theorem pendingCount_pass (x : Runner) (r : Run) :
    (x.pass r).pendingCount + (x.pass r).inFlight.length ≤
      r.pendingCount + r.inFlight.length := by
  have hn := pendingCount_notice r
  have hs := countP_skipBlocked_le x.plan r.notice.statuses.names r.notice.statuses
  calc (x.pass r).pendingCount + (x.pass r).inFlight.length
      = (x.skip r.notice).pendingCount + (x.skip r.notice).inFlight.length :=
        pendingCount_fill x (x.skip r.notice)
    _ ≤ r.notice.pendingCount + r.notice.inFlight.length := Nat.add_le_add_right hs _
    _ ≤ r.pendingCount + r.inFlight.length := by
        rw [inFlight_notice]
        exact Nat.add_le_add_right hn _

/-- A launch changes nothing but the statuses and the queue. -/
theorem launch_frame (x : Runner) (names : List String) (r : Run) :
    (x.launch names r).journal = r.journal ∧ (x.launch names r).noticed = r.noticed ∧
      (x.launch names r).stale = r.stale := by
  fun_induction launch x names r with
  | case1 => exact ⟨rfl, rfl, rfl⟩
  | case2 _ _ _ _ ih => exact ih
  | case3 _ _ _ _ ih => exact ih

/-- To fill the free slots sends nothing and does not look at the cancellation. -/
theorem fill_frame (x : Runner) (r : Run) :
    (x.fill r).journal = r.journal ∧ (x.fill r).noticed = r.noticed ∧
      (x.fill r).stale = r.stale := by
  unfold fill
  split
  · exact ⟨rfl, rfl, rfl⟩
  · exact launch_frame x _ r

/-- A pass notices a cancellation that came before it. -/
theorem notice_frame (r : Run) :
    r.notice.journal = r.journal ∧ r.notice.noticed = (r.noticed || r.journal.cancelled) ∧
      r.notice.stale = r.stale := by
  unfold Run.notice
  cases hn : r.noticed <;> cases hc : r.journal.cancelled <;> simp [hn]

/-- A pass sends nothing, notices a cancellation and is not due again. -/
theorem pass_frame (x : Runner) (r : Run) :
    (x.pass r).journal = r.journal ∧ (x.pass r).noticed = (r.noticed || r.journal.cancelled) ∧
      (x.pass r).stale = false := by
  obtain ⟨hj, hn, -⟩ := fill_frame x (x.skip r.notice)
  obtain ⟨hj', hn', -⟩ := notice_frame r
  exact ⟨hj.trans hj', hn.trans hn', rfl⟩

/-- No pass is due after a pass. -/
theorem isDue_pass (x : Runner) (r : Run) : (x.pass r).isDue = false := by
  obtain ⟨hj, hn, hs⟩ := pass_frame x r
  rw [Run.isDue, hj, hn, hs]
  cases r.noticed <;> cases r.journal.cancelled <;> rfl

end Runner

namespace Run

/-- What shrinks in the course of a run: the number of targets that have not ended, then the
cancellation that may come, then the pass that is due, then the work of the targets in flight. -/
def remaining (r : Run) : Nat × Nat × Nat × Queue :=
  (r.pendingCount + r.inFlight.length, (!r.journal.cancelled).toNat, r.isDue.toNat, r.inFlight)

/-- The order of runs by what remains of them. -/
instance order : WellFoundedRelation Run :=
  invImage remaining
    (Prod.lex Nat.lt_wfRel (Prod.lex Nat.lt_wfRel (Prod.lex Nat.lt_wfRel Queue.order)))

/-- A target that is done brings a run closer to its end. -/
theorem order_of_count {r r' : Run}
    (h : r'.pendingCount + r'.inFlight.length < r.pendingCount + r.inFlight.length) :
    order.rel r' r :=
  Prod.Lex.left _ _ h

/-- If no more targets are unended than before, the other parts of what remains decide. -/
theorem order_of_rest {r r' : Run}
    (h : r'.pendingCount + r'.inFlight.length ≤ r.pendingCount + r.inFlight.length)
    (ht : Prod.Lex (· < ·) (Prod.Lex (· < ·) Queue.Shrinks) r'.remaining.2 r.remaining.2) :
    order.rel r' r := by
  rcases Nat.lt_or_eq_of_le h with h | h
  · exact order_of_count h
  · show Prod.Lex _ _ (_, r'.remaining.2) (_, r.remaining.2)
    rw [h]
    exact Prod.Lex.right _ ht

end Run

namespace Runner

/-- A run is cancelled once, so that brings it closer to its end. -/
theorem order_of_cancel {r : Run} (h : r.journal.cancelled = false) : Run.order.rel r.cancel r := by
  refine Run.order_of_rest (Nat.le_refl _) (Prod.Lex.left _ _ ?_)
  simp [Run.cancel, Journal.pause, h]

/-- A pass that was due brings a run closer to its end. -/
theorem order_of_pass (x : Runner) {r : Run} (h : r.isDue = true) :
    Run.order.rel (x.pass r) r := by
  obtain ⟨hj, -, -⟩ := pass_frame x r
  refine Run.order_of_rest (pendingCount_pass x r) ?_
  simp only [Run.remaining, hj, isDue_pass, h]
  exact Prod.Lex.right _ (Prod.Lex.left _ _ Nat.one_pos)

/-- The work of a target in flight brings a run closer to its end. -/
theorem order_of_goOn (x : Runner) {r : Run} {before after : Queue} {f : Flight}
    (h : r.inFlight = before ++ f :: after) :
    Run.order.rel
      (r.goOn before f.target after (f.work.step x.world f.target r.journal)) r := by
  have hc : r.journal.cancelled = true →
      (f.work.step x.world f.target r.journal).1.cancelled = true :=
    fun h => Work.cancelled_step h f.work
  generalize hs : f.work.step x.world f.target r.journal = s at hc
  obtain ⟨j, result | work⟩ := s
  · -- the target ends: one less is unended
    refine Run.order_of_count ?_
    have hp := countP_putPair_le f.target r.statuses.entries (Status.ofResult_ne_pending result)
    simp only [Run.goOn, Run.pendingCount, Listing.put, h, List.length_append, List.length_cons]
    omega
  · -- the target goes on: its work shrinks, unless the run is cancelled by it
    have hq : Queue.Shrinks (Queue.goOn before ⟨f.target, work⟩ after) r.inFlight :=
      ⟨f, ⟨f.target, work⟩, before ++ after, h ▸ List.perm_middle, Queue.goOn_perm _ _ _,
        Work.order_of_step hs⟩
    refine Run.order_of_rest ?_ ?_
    · simp only [Run.goOn, Run.pendingCount]
      rw [(Queue.goOn_perm _ _ _).length_eq, h, List.perm_middle.length_eq]
      exact Nat.le_refl _
    · simp only [Run.goOn, Run.remaining, Run.isDue]
      cases hr : r.journal.cancelled <;> cases hj : j.cancelled
      · exact Prod.Lex.right _ (Prod.Lex.right _ hq)
      · exact Prod.Lex.left _ _ Nat.one_pos
      · exact absurd (hj.symm.trans (hc hr)) (by simp)
      · exact Prod.Lex.right _ (Prod.Lex.right _ hq)

/-- The target at a place of a queue that is not empty, with those before it and after it. -/
theorem advance_eq (x : Runner) (place : Nat) {r : Run} (h : r.inFlight ≠ []) :
    ∃ before f after, r.inFlight = before ++ f :: after ∧
      x.advance place r =
        r.goOn before f.target after (f.work.step x.world f.target r.journal) := by
  have hk : place % r.inFlight.length < r.inFlight.length :=
    Nat.mod_lt _ (List.length_pos_iff.2 h)
  cases hd : r.inFlight.drop (place % r.inFlight.length) with
  | nil => exact absurd (List.drop_eq_nil_iff.1 hd) (Nat.not_le.2 hk)
  | cons f after =>
    refine ⟨r.inFlight.take (place % r.inFlight.length), f, after, ?_, by simp only [advance, hd]⟩
    rw [← hd, List.take_append_drop]

/-- A run that is not over has less before it after each step. -/
theorem order_of_step (x : Runner) (beat : Beat) {r : Run} (h : r.isOver = false) :
    Run.order.rel (x.step beat r) r := by
  simp only [step, h, Bool.false_eq_true, if_false]
  split
  · exact order_of_cancel (by simp_all)
  · split
    · exact order_of_pass x (by simp_all)
    · have hne : r.inFlight ≠ [] := fun hq => by simp_all [Run.isOver]
      obtain ⟨before, f, after, hq, he⟩ := advance_eq x beat.place hne
      rw [he]
      exact order_of_goOn x hq

/-- Goes on with a run until it is over; the next step is the one with number `n`. -/
def loop (x : Runner) (interleaving : Interleaving) (n : Nat) (r : Run) : Run :=
  if h : r.isOver then r
  else x.loop interleaving (n + 1) (x.step (interleaving n) r)
termination_by r
decreasing_by exact order_of_step x _ (by simpa using h)

/-- The run that targets in an order come to when nothing more happens. -/
def ended (x : Runner) (interleaving : Interleaving) (order : List String) (cancelled : Bool) :
    Run :=
  x.loop interleaving 0 (Run.start order cancelled)

end Runner

end Rollout
