import Rollout.Proofs.Run.Alone
import Rollout.Proofs.Run.Blame
import Rollout.Proofs.Run.Cancellation

/-!
# One target at a time

A deployment that takes one target after the other visits each target of the order once
(`Runner.inTurn`): it skips a target one of whose dependencies has not completed, and otherwise does
its steps, each to its end, up to the first that fails. A run with room for one target only does the
same (`executeIn_in_turn`), though it skips targets early and looks through the whole order after
each end. For at every moment the targets of a front of the order have ended as they do in turn, and
behind it nothing but the first target has begun (`Run.InTurn`).
-/

namespace Rollout

/-- How a target ends. -/
inductive Outcome where
  | completed
  | failed (error : TargetError)
  | skipped
  deriving DecidableEq, Repr

/-- The outcome of a target that has ended by itself. -/
def Outcome.ofResult : Except TargetError Unit → Outcome
  | .ok _ => completed
  | .error e => failed e

namespace Status

/-- The outcome of a target that has ended. -/
def outcome? : Status → Option Outcome
  | completed => some .completed
  | failed e => some (.failed e)
  | skipped _ => some .skipped
  | _ => none

/-- A target that has come to a result has its outcome. -/
theorem outcome?_ofResult (result : Except TargetError Unit) :
    (ofResult result).outcome? = some (.ofResult result) := by
  cases result <;> rfl

/-- A target with an outcome has ended. -/
theorem isTerminal_of_outcome? {s : Status} {o : Outcome} (h : s.outcome? = some o) :
    s.isTerminal = true := by
  cases s with
  | pending => cases h
  | running => cases h
  | completed => rfl
  | failed _ => rfl
  | skipped _ => rfl

theorem outcome?_eq_completed_iff {s : Status} :
    s.outcome? = some .completed ↔ s = .completed := by
  cases s <;> simp [outcome?]

end Status

/-- How far a deployment that takes one target after the other has come: what it has sent, and how
the targets have ended. -/
structure Tour where
  journal : Journal
  outcomes : Listing Outcome

namespace Runner

variable {x : Runner} {s : Tour} {t d : String}

/-- Visits a target: skips it unless all its dependencies have completed, and does its steps
otherwise. -/
def visit (x : Runner) (s : Tour) (t : String) : Tour :=
  if ∀ d ∈ x.plan.dependencies t, s.outcomes.get? d = some .completed then
    let (journal, result) := performAll x.files x.world t (x.plan.steps t) s.journal
    ⟨journal, s.outcomes.put t (.ofResult result)⟩
  else ⟨s.journal, s.outcomes.put t .skipped⟩

/-- Visits targets in an order. -/
def inTurn (x : Runner) (order : List String) : Tour :=
  order.foldl x.visit ⟨Journal.fresh false, .empty⟩

/-- A target whose dependencies have completed does its steps. -/
theorem visit_of_completed
    (h : ∀ d ∈ x.plan.dependencies t, s.outcomes.get? d = some .completed) {j : Journal}
    {result : Except TargetError Unit}
    (hp : performAll x.files x.world t (x.plan.steps t) s.journal = (j, result)) :
    x.visit s t = ⟨j, s.outcomes.put t (.ofResult result)⟩ := by
  rw [visit, if_pos h, hp]

/-- A target with a dependency that has not completed does nothing. -/
theorem visit_of_ne_completed (hd : d ∈ x.plan.dependencies t)
    (h : s.outcomes.get? d ≠ some .completed) :
    x.visit s t = ⟨s.journal, s.outcomes.put t .skipped⟩ := by
  rw [visit, if_neg fun hall => h (hall d hd)]

/-- The last target of an order is visited after the others. -/
theorem inTurn_concat (x : Runner) (before : List String) (t : String) :
    x.inTurn (before ++ [t]) = x.visit (x.inTurn before) t := by
  simp [inTurn]

/-- A visit gives the target some outcome and touches no other one. -/
theorem exists_outcomes_visit (x : Runner) (s : Tour) (t : String) :
    ∃ o, (x.visit s t).outcomes = s.outcomes.put t o := by
  rw [visit]
  split
  · exact ⟨_, rfl⟩
  · exact ⟨_, rfl⟩

/-- The targets that were visited are those that have an outcome. -/
theorem isSome_inTurn (x : Runner) (order : List String) (t : String) :
    ((x.inTurn order).outcomes.get? t).isSome ↔ t ∈ order := by
  induction order using List.reverseRecOn with
  | nil => simp [inTurn]
  | append_singleton before t' ih =>
    obtain ⟨o, ho⟩ := x.exists_outcomes_visit (x.inTurn before) t'
    rw [inTurn_concat, ho, Listing.get?_put]
    split
    · rename_i he
      simp [he]
    · rename_i hne
      simp [ih, Ne.symm hne]

end Runner

namespace Run

variable {x : Runner} {order before after : List String} {r r' : Run} {t d : String}

/-- A run in which the targets of a front of the order have ended as they do in turn, and none of
those behind it has ended but by being skipped. -/
structure Along (x : Runner) (r : Run) (before after : List String) : Prop where
  agree : ∀ t ∈ before, ∃ s o, r.status t = some s ∧ s.outcome? = some o ∧
    (x.inTurn before).outcomes.get? t = some o
  behind : ∀ t ∈ after, ∀ s, r.status t = some s → s.isTerminal = true →
    ∃ reason, s = .skipped reason

/-- A run in which nothing is in flight, and which has sent what the targets of a front of the order
send in turn. -/
def Rests (x : Runner) (r : Run) (before : List String) : Prop :=
  r.inFlight = [] ∧ r.journal = (x.inTurn before).journal

/-- A run in which the first target behind a front of the order is in flight, and what is left of
its work comes to what it does after the targets of the front. -/
def Works (x : Runner) (r : Run) (before after : List String) : Prop :=
  ∃ f more, after = f.target :: more ∧ r.inFlight = [f] ∧
    f.work.conclude x.world f.target r.journal =
      (attemptAll x.files f.target (x.plan.steps f.target)).finish x.world f.target
        (x.inTurn before).journal

/-- A run that has come as far as targets in turn up to some point of the order. -/
def InTurn (x : Runner) (order : List String) (r : Run) : Prop :=
  ∃ before after, order = before ++ after ∧ r.Along x before after ∧
    (r.Rests x before ∨ r.Works x before after)

namespace Along

/-- A target of the front has completed in turn if and only if it has in the run. -/
theorem completed_iff (h : r.Along x before after) (hd : d ∈ before) :
    (x.inTurn before).outcomes.get? d = some .completed ↔ r.status d = some .completed := by
  obtain ⟨s, o, hs, ho, hget⟩ := h.agree d hd
  rw [hget, hs, Option.some.injEq, Option.some.injEq, ← Status.outcome?_eq_completed_iff, ho,
    Option.some.injEq]

/-- The front grows by a target that has ended as it does in turn. -/
theorem concat (h : r.Along x before (t :: after)) (hn : t ∉ before) {s : Status} {o : Outcome}
    {journal : Journal} (hs : r.status t = some s) (ho : s.outcome? = some o)
    (hvisit : x.visit (x.inTurn before) t = ⟨journal, (x.inTurn before).outcomes.put t o⟩) :
    r.Along x (before ++ [t]) after where
  agree t' ht' := by
    rw [Runner.inTurn_concat, hvisit, Listing.get?_put]
    rcases List.mem_append.1 ht' with ht' | ht'
    · have hne : t ≠ t' := fun he => hn (he ▸ ht')
      rw [if_neg hne]
      exact h.agree t' ht'
    · obtain rfl := List.mem_singleton.1 ht'
      exact ⟨s, o, hs, ho, if_pos rfl⟩
  behind t' ht' := h.behind t' (List.mem_cons_of_mem _ ht')

/-- A run stays along the order if what has ended stays as it is, and what ends behind the front is
skipped. -/
theorem of_terminal (h : r.Along x before after)
    (hkeep : ∀ t s, r.status t = some s → s.isTerminal = true → r'.status t = some s)
    (hnew : ∀ t s, r'.status t = some s → s.isTerminal = true →
      r.status t = some s ∨ ∃ reason, s = .skipped reason) : r'.Along x before after where
  agree t ht := by
    obtain ⟨s, o, hs, ho, hget⟩ := h.agree t ht
    exact ⟨s, o, hkeep t s hs (Status.isTerminal_of_outcome? ho), ho, hget⟩
  behind t ht s hs hterm := by
    rcases hnew t s hs hterm with hs | hskip
    · exact h.behind t ht s hs hterm
    · exact hskip

/-- To skip targets keeps a run along the order. -/
theorem skip (h : r.Along x before after) : (x.skip r).Along x before after := by
  refine h.of_terminal (fun t s ht hterm => x.status_skip_of_ne ht ?_) fun t s ht _ => ?_
  · rintro rfl
    cases hterm
  · rcases x.status_skip r t with he | ⟨-, d, -, he, -⟩
    · exact .inl (he.symm.trans ht)
    · exact .inr ⟨_, Option.some.inj (ht.symm.trans he)⟩

theorem launchOne (h : r.Along x before after) (hp : r.status t = some .pending) :
    (x.launchOne r t).Along x before after := by
  refine h.of_terminal (fun t' s hs hterm => ?_) fun t' s hs hterm => .inl ?_
  · refine (Runner.status_launchOne_of_ne hp ?_).trans hs
    rintro hp'
    cases hs.symm.trans hp'
    cases hterm
  · rw [Runner.status_launchOne] at hs
    split at hs
    · cases hs
      cases hterm
    · exact hs

/-- Where nothing is in flight the front grows up to the first pending target of the order, over
targets that were skipped for dependencies that have not completed. -/
theorem exists_pending (h : r.Along x before after) (hrest : r.Rests x before)
    (hv : r.Valid x order) (ho : x.plan.Runnable order) (hb : r.Blaming x)
    (hn : r.noticed = false) (hsplit : order = before ++ after) :
    ∃ before' after', order = before' ++ after' ∧ r.Along x before' after' ∧
      r.Rests x before' ∧
      ∀ t ∈ after'.head?, r.status t = some .pending := by
  induction after generalizing before with
  | nil => exact ⟨before, [], hsplit, h, hrest, by simp⟩
  | cons t more ih =>
    have hmem : t ∈ order := by simp [hsplit]
    obtain ⟨s, hs⟩ := Option.isSome_iff_exists.1 ((hv.isSome_status t).2 hmem)
    cases s with
    | pending => exact ⟨before, t :: more, hsplit, h, hrest, by simpa using hs⟩
    | running =>
      have hfly := (hv.flying t).1 hs
      rw [hrest.1] at hfly
      cases hfly
    | completed => cases (h.behind t List.mem_cons_self _ hs rfl).choose_spec
    | failed e => cases (h.behind t List.mem_cons_self _ hs rfl).choose_spec
    | skipped reason =>
      cases reason with
      | cancelled => exact absurd hs (hb.unswept hn t)
      | dependency d =>
        -- the dependency stands in the front, and has not completed
        obtain ⟨hd, hblame⟩ := hb.blamed t d hs
        have hbefore : d ∈ before := (hsplit ▸ ho).mem_before hd
        have hne : (x.inTurn before).outcomes.get? d ≠ some .completed := fun hdone => by
          have hds := (h.completed_iff hbefore).1 hdone
          rcases hblame with ⟨e, he⟩ | ⟨d', hd'⟩
          · cases hds.symm.trans he
          · cases hds.symm.trans hd'
        have hnot : t ∉ before := fun hm =>
          (List.nodup_append.1 (hsplit ▸ ho.nodup)).2.2 t hm t List.mem_cons_self rfl
        have hvisit := Runner.visit_of_ne_completed hd hne
        refine ih (h.concat hnot hs rfl hvisit) ⟨hrest.1, ?_⟩ (by simp [hsplit])
        rw [Runner.inTurn_concat, hvisit]
        exact hrest.2

end Along

end Run

namespace Runner

variable {x : Runner} {r : Run} {t : String}

/-- Where there is no room nothing is launched. -/
theorem launch_of_full (h : x.limit ≤ r.inFlight.length) (names : List String) :
    x.launch names r = r := by
  induction names with
  | nil => rfl
  | cons name more ih => rw [launch, if_neg (by simp; omega), ih]

/-- Targets that are not ready are not launched. -/
theorem launch_append_of_not_isReady {front : List String}
    (h : ∀ t ∈ front, x.isReady r t = false) (names : List String) :
    x.launch (front ++ names) r = x.launch names r := by
  induction front with
  | nil => rfl
  | cons name more ih =>
    obtain ⟨hname, hmore⟩ := List.forall_mem_cons.1 h
    rw [List.cons_append, launch, if_neg (by simp [hname]), ih hmore]

/-- Where there is room for one target, the first ready target is launched and no other one. -/
theorem launch_of_isReady {front : List String} (hl : x.limit = 1) (hempty : r.inFlight = [])
    (hfront : ∀ t ∈ front, x.isReady r t = false) (ht : x.isReady r t = true)
    (names : List String) : x.launch (front ++ t :: names) r = x.launchOne r t := by
  rw [launch_append_of_not_isReady hfront, launch, if_pos (by simp [hl, hempty, ht])]
  exact launch_of_full (by simp [launchOne, hl]) names

end Runner

namespace Run

variable {x : Runner} {order before after : List String} {r r' : Run} {t : String}

/-- A target of the front is not ready. -/
theorem Along.not_isReady (h : r.Along x before after) (ht : t ∈ before) :
    x.isReady r t = false := by
  refine Bool.eq_false_iff.2 fun hready => ?_
  obtain ⟨s, o, hs, ho, -⟩ := h.agree t ht
  cases hs.symm.trans ((x.isReady_iff r t).1 hready).1
  cases ho

/-- The first target behind the front is ready if it is pending and not blocked. -/
theorem Along.isReady (h : r.Along x before (t :: after)) (ho : x.plan.Runnable order)
    (hu : r.Unblocked x) (hsplit : order = before ++ t :: after)
    (hp : r.status t = some .pending) : x.isReady r t = true := by
  refine (x.isReady_iff r t).2 ⟨hp, fun d hd => ?_⟩
  obtain ⟨s, o, hs, houtcome, -⟩ := h.agree d ((hsplit ▸ ho).mem_before hd)
  rcases Status.completed_or_blocks (Status.isTerminal_of_outcome? houtcome) with rfl | hb
  · exact hs
  · have hnb := hu t hp d hd
    rw [hs, hb] at hnb
    cases hnb

namespace InTurn

/-- At the start no target was visited. -/
theorem start (hn : order.Nodup) : (Run.start order false).InTurn x order := by
  refine ⟨[], order, rfl, ⟨fun t ht => (nomatch ht), fun t _ s hs hterm => ?_⟩, .inl ⟨rfl, rfl⟩⟩
  cases eq_pending_of_start hn hs
  cases hterm

/-- With room for one target, the launches after the blocked targets were skipped start the first
target behind the front, if nothing is in flight. -/
theorem launch (h : r.InTurn x order) (hl : x.limit = 1) (hv : r.Valid x order)
    (ho : x.plan.Runnable order) (hb : r.Blaming x) (hn : r.noticed = false)
    (hu : r.Unblocked x) : (x.launch r.statuses.names r).InTurn x order := by
  obtain ⟨before, after, hsplit, halong, hrest | ⟨f, more, rfl, hq, hwork⟩⟩ := h
  · obtain ⟨before, after, hsplit, halong, hrest, hhead⟩ :=
      halong.exists_pending hrest hv ho hb hn hsplit
    rw [hv.names]
    cases after with
    | nil =>
      -- every target has ended
      have hnone : x.launch order r = r := by
        rw [hsplit]
        exact Runner.launch_append_of_not_isReady (fun t ht => halong.not_isReady ht) []
      rw [hnone]
      exact ⟨before, [], hsplit, halong, .inl hrest⟩
    | cons t more =>
      have hp : r.status t = some .pending := hhead t rfl
      have hone : x.launch order r = x.launchOne r t := by
        rw [hsplit]
        exact Runner.launch_of_isReady hl hrest.1 (fun t ht => halong.not_isReady ht)
          (halong.isReady ho hu hsplit hp) more
      rw [hone]
      refine ⟨before, t :: more, hsplit, halong.launchOne hp,
        .inr ⟨⟨t, .ready (attemptAll x.files t (x.plan.steps t))⟩, more, rfl, ?_, ?_⟩⟩
      · simp [Runner.launchOne, hrest.1]
      · show Activity.finish x.world t _ r.journal = _
        rw [hrest.2]
  · -- the only place is taken
    rw [Runner.launch_of_full (by simp [hl, hq])]
    exact ⟨before, _, hsplit, halong, .inr ⟨f, more, rfl, hq, hwork⟩⟩

/-- With room for one target, a pass keeps a run that is not cancelled in turn. -/
theorem pass (h : r.InTurn x order) (hl : x.limit = 1) (hv : r.Valid x order)
    (ho : x.plan.Runnable order) (hb : r.Blaming x) (hc : r.journal.cancelled = false) :
    (x.pass r).InTurn x order := by
  have hn := hv.not_noticed hc
  have hskip : (x.skip r).InTurn x order := by
    obtain ⟨before, after, hsplit, halong, hcourse⟩ := h
    exact ⟨before, after, hsplit, halong.skip, hcourse⟩
  have hfill : (x.fill (x.skip r)).InTurn x order := by
    have hno : ¬ (x.skip r).noticed = true := by simp [Runner.skip, hn]
    rw [Runner.fill, if_neg hno]
    exact hskip.launch hl hv.skip ho (hb.skip hv) hn (hv.unblocked_skip ho.toOrdered)
  obtain ⟨before, after, hsplit, halong, hcourse⟩ := hfill
  rw [Runner.pass, notice_of_not_cancelled hc]
  exact ⟨before, after, hsplit, ⟨halong.agree, halong.behind⟩, hcourse⟩

/-- The end of the target in flight puts it to the front, with the outcome that it has in turn. -/
theorem goOn_ended {before : List String} {f : Flight} {more : List String} {j : Journal}
    {result : Except TargetError Unit} (h : r.Along x before (f.target :: more))
    (hv : r.Valid x order) (ho : x.plan.Runnable order)
    (hsplit : order = before ++ f.target :: more) (hq : r.inFlight = [f])
    (hended : (attemptAll x.files f.target (x.plan.steps f.target)).finish x.world f.target
      (x.inTurn before).journal = (j, result)) (hc : j.cancelled = false) :
    (r.goOn [] f.target [] (j, .ended result)).InTurn x order := by
  have hrun : r.status f.target = some .running := (hv.flying _).2 (by simp [hq])
  have hstatus := r.status_goOn_ended [] [] f.target j result
  have hnodup : (before ++ f.target :: more).Nodup := hsplit ▸ ho.nodup
  have hnot : f.target ∉ before := fun hm =>
    (List.nodup_append.1 hnodup).2.2 _ hm _ List.mem_cons_self rfl
  -- a target that was launched has only completed dependencies
  have hdeps : ∀ d ∈ x.plan.dependencies f.target,
      (x.inTurn before).outcomes.get? d = some .completed := fun d hd =>
    (h.completed_iff ((hsplit ▸ ho).mem_before hd)).2 (hv.begun _ _ hrun rfl d hd)
  have hperform : performAll x.files x.world f.target (x.plan.steps f.target)
      (x.inTurn before).journal = (j, result) := by
    rw [← finish_attemptAll (by rwa [hended]), hended]
  have hvisit := Runner.visit_of_completed hdeps hperform
  have hafter : (r.goOn [] f.target [] (j, .ended result)).Along x (before ++ [f.target]) more := by
    refine ⟨fun t ht => ?_, fun t ht s hs => ?_⟩
    · rw [Runner.inTurn_concat, hvisit, Listing.get?_put, hstatus]
      split
      · exact ⟨_, _, rfl, Status.outcome?_ofResult result, rfl⟩
      · rename_i hne
        refine h.agree t ((List.mem_append.1 ht).resolve_right fun ht => ?_)
        exact hne (List.mem_singleton.1 ht).symm
    · have hne : f.target ≠ t := fun he =>
        (List.nodup_cons.1 (List.nodup_append.1 hnodup).2.1).1 (he ▸ ht)
      rw [hstatus, if_neg hne] at hs
      exact h.behind t (List.mem_cons_of_mem _ ht) s hs
  refine ⟨before ++ [f.target], more, by simp [hsplit], hafter, .inl ⟨rfl, ?_⟩⟩
  rw [Runner.inTurn_concat, hvisit]
  rfl

/-- A step of the target in flight that does not cancel a run keeps it in turn. -/
theorem goOn {front back : Queue} {f : Flight} (h : r.InTurn x order) (hv : r.Valid x order)
    (ho : x.plan.Runnable order) (hq : r.inFlight = front ++ f :: back)
    (hc : (f.work.step x.world f.target r.journal).1.cancelled = false) :
    (r.goOn front f.target back (f.work.step x.world f.target r.journal)).InTurn x order := by
  obtain ⟨before, after, hsplit, halong, hrest | ⟨g, more, rfl, hone, hwork⟩⟩ := h
  · rw [hrest.1] at hq
    simp at hq
  · -- the target that goes on is the only one in flight
    obtain ⟨rfl, rfl, rfl⟩ : front = [] ∧ f = g ∧ back = [] := by
      have := hone.symm.trans hq
      cases front with
      | nil => simpa [eq_comm] using this
      | cons _ _ => simp at this
    have hgoes := Work.goes_step x.world f.target r.journal f.work
    generalize f.work.step x.world f.target r.journal = s at hgoes hc
    obtain ⟨j, result | work⟩ := s
    · exact goOn_ended halong hv ho hsplit hone (hwork.symm.trans hgoes.conclude_ended) hc
    · refine ⟨before, _, hsplit, ⟨halong.agree, halong.behind⟩, .inr ⟨⟨f.target, work⟩, more, rfl,
        ?_, hgoes.conclude_left.trans hwork⟩⟩
      simp [Run.goOn, Queue.goOn]

/-- As long as nobody cancels, a run with room for one target goes on in turn. -/
theorem next (h : r.InTurn x order) (hl : x.limit = 1) (hv : r.Valid x order)
    (ho : x.plan.Runnable order) (hb : r.Blaming x) (hr : x.Next r r')
    (hc : r'.journal.cancelled = false) : r'.InTurn x order := by
  cases hr with
  | cancel => exact absurd hc (by simp [Run.cancel, Journal.pause])
  | pass _ => exact h.pass hl hv ho hb (by rwa [(x.pass_frame r).1] at hc)
  | goOn _ hq => exact h.goOn hv ho hq (by rwa [Run.journal_goOn] at hc)

/-- A run in turn that is over has visited the whole order. -/
theorem of_isOver (h : r.InTurn x order) (hv : r.Valid x order) (ho : x.plan.Runnable order)
    (hb : r.Blaming x) (hs : r.Settled x) (hc : r.journal.cancelled = false)
    (hover : r.isOver = true) : r.Along x order [] ∧ r.journal = (x.inTurn order).journal := by
  have hn := hv.not_noticed hc
  have hterm := terminal_of_isOver ho hv hs hover
  have hempty : r.inFlight = [] := by
    simp only [isOver, Bool.and_eq_true, List.isEmpty_iff] at hover
    exact hover.2
  obtain ⟨before, after, hsplit, halong, hrest | ⟨f, more, -, hq, -⟩⟩ := h
  · obtain ⟨before, after, hsplit, halong, hrest, hhead⟩ :=
      halong.exists_pending hrest hv ho hb hn hsplit
    cases after with
    | nil =>
      obtain rfl : order = before := by simpa using hsplit
      exact ⟨halong, hrest.2⟩
    | cons t more =>
      obtain ⟨s, hst, hsterm⟩ := hterm t (by simp [hsplit])
      cases hst.symm.trans (hhead t rfl)
      cases hsterm
  · rw [hempty] at hq
    cases hq

end InTurn

end Run

namespace Runner

variable {x : Runner} {order : List String} {i : Interleaving} {cancelled : Bool}

/-- A run with room for one target that is never cancelled has visited the whole order at its
end. -/
theorem along_ended (ho : x.plan.Runnable order) (hl : x.limit = 1)
    (hc : (x.ended i order cancelled).journal.cancelled = false) :
    (x.ended i order cancelled).Along x order [] ∧
      (x.ended i order cancelled).journal = (x.inTurn order).journal := by
  obtain ⟨-, -, hover⟩ := exists_moment_loop x i order cancelled
  have hs : (x.ended i order cancelled).Settled x := (valid_ended ho.toOrdered).2
  have hturn : (x.ended i order cancelled).Valid x order ∧ (x.ended i order cancelled).Blaming x ∧
      (x.ended i order cancelled).InTurn x order := by
    refine ended_keeps_of_not_cancelled
      (P := fun r => r.Valid x order ∧ r.Blaming x ∧ r.InTurn x order) hc (fun hstart => ?_)
      fun ⟨hv, hb, h⟩ hr hc => ⟨hv.next hr, hb.next hv hr, h.next hl hv ho hb hr hc⟩
    subst hstart
    exact ⟨.start x ho.nodup false, .start ho.nodup false, .start ho.nodup⟩
  obtain ⟨hv, hb, h⟩ := hturn
  exact h.of_isOver hv ho hb hs hc hover

/-- With room for one target at a time, the execution of a request of a compiled plan without a
circle among the wanted targets is a deployment that takes one target after the other, whatever the
world answers and however its turns go, as long as nobody cancels it: it sends the same round trips
in the same order, and every target ends in the same way. -/
theorem executeIn_in_turn {m : Manifest} {supplied : Params} {base? : Option String}
    (h : m.compile supplied base? = .ok x.plan) {requested : List String}
    (hr : ∀ name ∈ requested, x.plan.has name = true)
    (hacyclic : ∀ t, x.plan.Wanted requested t → ¬ x.plan.Upstream t t) (hl : x.maxParallel ≤ 1)
    (i : Interleaving) (cancelled : Bool)
    (hc : (x.executeIn i requested cancelled).1.cancelled = false) :
    ∃ order report, x.plan.schedule requested = .ok order ∧
      x.executeIn i requested cancelled = ((x.inTurn order).journal,
        if report.isSuccess then .ok report else .error (.incomplete report)) ∧
      ∀ t, (report.statuses.get? t).bind Status.outcome? = (x.inTurn order).outcomes.get? t := by
  have hp := Manifest.closed_of_compile h
  obtain ⟨order, hs⟩ := Plan.schedule_eq_ok hp hr hacyclic
  have ho := (Plan.runnable_of_schedule hp hs).1
  rw [executeIn_of_ok hs] at hc ⊢
  have hone : x.limit = 1 := Nat.max_eq_left hl
  obtain ⟨halong, hjournal⟩ := along_ended ho hone hc
  refine ⟨order, ⟨(x.ended i order cancelled).statuses⟩, hs, by rw [hjournal], fun t => ?_⟩
  by_cases ht : t ∈ order
  · obtain ⟨s, o, hstatus, houtcome, hget⟩ := halong.agree t ht
    exact (congrArg (Option.bind · Status.outcome?) hstatus).trans (houtcome.trans hget.symm)
  · -- what is not in the order has neither a status nor an outcome
    have hv : (x.ended i order cancelled).Valid x order := (valid_ended ho.toOrdered).1
    have hnone : (x.ended i order cancelled).status t = none :=
      Option.not_isSome_iff_eq_none.1 fun hsome => ht ((hv.isSome_status t).1 hsome)
    have hout : (x.inTurn order).outcomes.get? t = none :=
      Option.not_isSome_iff_eq_none.1 fun hsome => ht ((x.isSome_inTurn order t).1 hsome)
    exact (congrArg (Option.bind · Status.outcome?) hnone).trans hout.symm

/-- Where the instance of the first target of the sample refuses connections, a deployment that
takes one target after the other skips the second target, and so does a run with room for one. -/
theorem executeIn_in_turn_sample :
    Sample.manifest.compile .empty none = .ok (Sample.runner 1 (Sample.refusing [false])).plan ∧
    ((Sample.runner 1 (Sample.refusing [false])).executeIn .fromFront ["app"] false).1.cancelled =
      false ∧
    ((Sample.runner 1 (Sample.refusing [false])).inTurn ["base", "app"]).outcomes.get? "app" =
      some .skipped ∧
    ∃ order report,
      (Sample.runner 1 (Sample.refusing [false])).plan.schedule ["app"] = .ok order ∧
      (Sample.runner 1 (Sample.refusing [false])).executeIn .fromFront ["app"] false =
        (((Sample.runner 1 (Sample.refusing [false])).inTurn order).journal,
          if report.isSuccess then .ok report else .error (.incomplete report)) ∧
      ∀ t, (report.statuses.get? t).bind Status.outcome? =
        ((Sample.runner 1 (Sample.refusing [false])).inTurn order).outcomes.get? t := by
  have h := Sample.compile_manifest 1 (Sample.refusing [false])
  have hs := Sample.schedule_plan 1 (Sample.refusing [false])
  have hp := Manifest.closed_of_compile h
  have hover : ((Sample.runner 1 (Sample.refusing [false])).moment .fromFront ["base", "app"] false
      9).isOver = true := by rfl
  have hc : ((Sample.runner 1 (Sample.refusing [false])).executeIn .fromFront ["app"]
      false).1.cancelled = false := by
    rw [executeIn_of_ok hs, ended_eq_moment hover]
    rfl
  exact ⟨h, hc, by decide +kernel, executeIn_in_turn h (Plan.has_of_schedule hs)
    (Plan.acyclic_of_schedule hp hs) (Nat.le_refl 1) .fromFront false hc⟩

end Runner

end Rollout
