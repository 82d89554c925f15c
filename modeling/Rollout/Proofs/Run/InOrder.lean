import Rollout.Proofs.Run.Confluence
import Rollout.Proofs.Run.Turns

/-!
# A target does its steps in order

The turns of a target are the journals in which it goes on (`Runner.turns`). What they make of its
work, and what it sends in them, is told at every moment (`Run.Traced`), whatever other targets do
in between. The work of a target is the steps of the plan one after the other: in its turns some
steps pass, and the next one is under way, has failed, or is not begun (`Runner.stage_of_goesOn`).
Turns determine which step that is (`FailsAt.unique`), so a target completes exactly if all of its
steps pass, and fails with the error of the first one that does not (`executeIn_in_order`).
-/

namespace Rollout

namespace Run

/-- The target in flight that goes on in a step of a run, if one does. -/
def goer? (beat : Beat) (r : Run) : Option Flight :=
  if r.isOver then none
  else if beat.cancels && !r.journal.cancelled then none
  else if r.isDue && (r.stale || beat.notices || r.inFlight.isEmpty) then none
  else (r.inFlight.drop (beat.place % r.inFlight.length)).head?

/-- The turn that a target takes in a step of a run, if it is the one that goes on: the journal as
it is then. A target that has come to its result only leaves the queue. -/
def turn (beat : Beat) (t : String) (r : Run) : List Journal :=
  match r.goer? beat with
  | some f => if f.target = t ∧ f.work.result? = none then [r.journal] else []
  | none => []

end Run

namespace Runner

/-- The turns that a target has taken up to a moment of a run. -/
def turns (x : Runner) (i : Interleaving) (order : List String) (cancelled : Bool) (t : String) :
    Nat → List Journal
  | 0 => []
  | n + 1 => x.turns i order cancelled t n ++ (x.moment i order cancelled n).turn (i n) t

/-- The work that a step of a target has come to in some turns, and what it has sent. If the run is
cancelled in the first of them the step is not begun, and fails for that. -/
inductive Comes (x : Runner) (t : String) (s : Step) :
    List Journal → List Trip → Work StepError Unit → Prop
  | refused {j : Journal} (h : j.cancelled = true) : Comes x t s [j] [] (.ready (.fail .cancelled))
  | begun {j : Journal} {turns : List Journal} {trips : List Trip} {w : Work StepError Unit}
    (h : j.cancelled = false)
    (hw : (Work.ready (s.activity x.files)).GoesOn x.world t turns trips w) :
    Comes x t s (j :: turns) trips w

/-- The turns in which steps pass one after the other, and what they send. -/
inductive PassAll (x : Runner) (t : String) : List Step → List Journal → List Trip → Prop
  | nil : PassAll x t [] [] []
  | cons {s : Step} {r : List Step} {turns turns' : List Journal} {trips trips' : List Trip}
    (h : x.Comes t s turns trips (.ready (.done ()))) (hr : PassAll x t r turns' trips') :
    PassAll x t (s :: r) (turns ++ turns') (trips ++ trips')

/-- The first `k` steps have passed one after the other, and the turns after that, with what is sent
in them, are as `P` says. -/
def Reaches (x : Runner) (t : String) (steps : List Step) (k : Nat)
    (P : List Journal → List Trip → Prop) (turns : List Journal) (trips : List Trip) : Prop :=
  ∃ turns₁ turns₂ trips₁ trips₂, turns = turns₁ ++ turns₂ ∧ trips = trips₁ ++ trips₂ ∧
    x.PassAll t (steps.take k) turns₁ trips₁ ∧ P turns₂ trips₂

/-- Some steps have passed one after the other, and of the next one nothing or something has been
done. -/
def Stands (x : Runner) (t : String) (steps : List Step) (turns : List Journal)
    (trips : List Trip) : Prop :=
  ∃ k, x.Reaches t steps k (fun turns trips => turns = [] ∧ trips = [] ∨
    ∃ s w, steps[k]? = some s ∧ x.Comes t s turns trips w) turns trips

/-- The steps before the one at `k` have passed one after the other, and this one has failed, or was
not begun because the run was cancelled, with the error. -/
def FailsAt (x : Runner) (t : String) (steps : List Step) (turns : List Journal)
    (trips : List Trip) (e : TargetError) (k : Nat) : Prop :=
  ∃ s cause, steps[k]? = some s ∧ e = ⟨t, s.instanceName, s.describe, cause⟩ ∧
    x.Reaches t steps k (fun turns trips => x.Comes t s turns trips (.ready (.fail cause)))
      turns trips

/-- How far steps have come, given the result that they have come to, if any. -/
def Stage (x : Runner) (t : String) (steps : List Step) (turns : List Journal)
    (trips : List Trip) : Option (Except TargetError Unit) → Prop
  | none => x.Stands t steps turns trips
  | some (.ok _) => x.PassAll t steps turns trips
  | some (.error e) => ∃ k, x.FailsAt t steps turns trips e k

end Runner

variable {x : Runner} {t : String} {s : Step} {steps : List Step} {turns turns' : List Journal}
  {trips trips' : List Trip} {w w' : Work StepError Unit}

namespace Runner

/-! ## Steps -/

/-- The turns of a step that has come to a result are determined. -/
theorem Comes.eq_of_result? (h : x.Comes t s turns trips w) (h' : x.Comes t s turns' trips' w')
    {result result' : Except StepError Unit} (hw : w.result? = some result)
    (hw' : w'.result? = some result') {more more' : List Journal}
    (heq : turns ++ more = turns' ++ more') : turns = turns' ∧ trips = trips' ∧ w = w' := by
  cases h with
  | refused hj =>
    cases h' with
    | refused _ =>
      cases List.head_eq_of_cons_eq heq
      exact ⟨rfl, rfl, rfl⟩
    | begun hj' _ =>
      cases List.head_eq_of_cons_eq heq
      cases hj.symm.trans hj'
  | @begun j turns trips _ hj hgoes =>
    cases h' with
    | refused hj' =>
      cases List.head_eq_of_cons_eq heq
      cases hj.symm.trans hj'
    | @begun _ turns' trips' _ _ hgoes' =>
      cases List.head_eq_of_cons_eq heq
      have heq : turns ++ more = turns' ++ more' := List.tail_eq_of_cons_eq heq
      rcases List.append_eq_append_iff.1 heq with ⟨d, rfl, -⟩ | ⟨d, rfl, -⟩
      · obtain ⟨rest, rfl, hrest⟩ := hgoes.split hgoes'
        obtain ⟨rfl, rfl, rfl⟩ := hrest.of_result? hw
        simp
      · obtain ⟨rest, rfl, hrest⟩ := hgoes'.split hgoes
        obtain ⟨rfl, rfl, rfl⟩ := hrest.of_result? hw'
        simp

/-- Steps that have passed are followed by the turns of the next one. -/
theorem PassAll.next {r : List Step} (h : x.PassAll t steps turns trips)
    (h' : x.PassAll t (steps ++ s :: r) turns' trips') {more more' : List Journal}
    (heq : turns ++ more = turns' ++ more') :
    ∃ front rest sent, more = front ++ rest ∧ x.Comes t s front sent (.ready (.done ())) := by
  induction h generalizing turns' trips' with
  | nil =>
    cases h' with
    | @cons _ _ front rest sent _ hs _ =>
      rw [List.nil_append, List.append_assoc] at heq
      exact ⟨front, rest ++ more', sent, heq, hs⟩
  | cons hs _ ih =>
    cases h' with
    | cons hs' hr' =>
      rw [List.append_assoc, List.append_assoc] at heq
      obtain ⟨rfl, -, -⟩ := hs.eq_of_result? hs' rfl rfl heq
      exact ih hr' (List.append_cancel_left heq)

/-- Where a step fails it has not passed. -/
theorem Reaches.not_passAll {e : StepError} {k : Nat} {l : List Step}
    (h : x.Reaches t steps k (fun turns trips => x.Comes t s turns trips (.ready (.fail e)))
      turns trips)
    (h' : x.PassAll t (steps.take k ++ s :: l) turns' trips') {more : List Journal}
    (heq : turns = turns' ++ more) : False := by
  obtain ⟨turns₁, turns₂, _, _, rfl, -, hpass, hs⟩ := h
  obtain ⟨front, rest, sent, hfront, hs'⟩ := hpass.next h' heq
  obtain ⟨-, -, hw⟩ := hs.eq_of_result? hs' rfl rfl
    (show turns₂ ++ [] = front ++ rest by rw [List.append_nil, hfront])
  cases hw

section

variable {P Q : List Journal → List Trip → Prop} {k : Nat} {e : TargetError}

/-- The first step is reached with nothing done before it. -/
theorem Reaches.zero (h : P turns trips) : x.Reaches t steps 0 P turns trips :=
  ⟨[], turns, [], trips, rfl, rfl, .nil, h⟩

/-- A step that has come to its end passes, and those behind it are reached one later. -/
theorem Reaches.succ (hs : x.Comes t s turns trips (.ready (.done ())))
    (h : x.Reaches t steps k P turns' trips') :
    x.Reaches t (s :: steps) (k + 1) P (turns ++ turns') (trips ++ trips') := by
  obtain ⟨turns₁, turns₂, trips₁, trips₂, rfl, rfl, hpass, hp⟩ := h
  exact ⟨turns ++ turns₁, turns₂, trips ++ trips₁, trips₂, (List.append_assoc _ _ _).symm,
    (List.append_assoc _ _ _).symm, .cons hs hpass, hp⟩

/-- What is known of the step that is reached may be weakened. -/
theorem Reaches.mono (h : x.Reaches t steps k P turns trips)
    (hpq : ∀ turns trips, P turns trips → Q turns trips) : x.Reaches t steps k Q turns trips := by
  obtain ⟨turns₁, turns₂, trips₁, trips₂, rfl, rfl, hpass, hp⟩ := h
  exact ⟨turns₁, turns₂, trips₁, trips₂, rfl, rfl, hpass, hpq _ _ hp⟩

/-- Steps that have all passed stand at the end. -/
theorem PassAll.stands (h : x.PassAll t steps turns trips) : x.Stands t steps turns trips := by
  refine ⟨steps.length, turns, [], trips, [], (List.append_nil _).symm, (List.append_nil _).symm,
    ?_, .inl ⟨rfl, rfl⟩⟩
  rwa [List.take_length]

/-- Steps of which one has failed stand at that one. -/
theorem FailsAt.stands (h : x.FailsAt t steps turns trips e k) :
    x.Stands t steps turns trips := by
  obtain ⟨s, cause, hs, -, hk⟩ := h
  exact ⟨k, hk.mono fun _ _ hs' => .inr ⟨s, _, hs, hs'⟩⟩

/-- Whatever steps have come to, they stand at one of them. -/
theorem Stage.stands {result : Option (Except TargetError Unit)}
    (h : x.Stage t steps turns trips result) : x.Stands t steps turns trips := by
  match result, h with
  | none, h => exact h
  | some (.ok _), h => exact PassAll.stands h
  | some (.error _), ⟨_, h⟩ => exact h.stands

/-- A step that passes puts what follows it one step further. -/
theorem Stage.cons {result : Option (Except TargetError Unit)}
    (hs : x.Comes t s turns trips (.ready (.done ())))
    (h : x.Stage t steps turns' trips' result) :
    x.Stage t (s :: steps) (turns ++ turns') (trips ++ trips') result := by
  match result, h with
  | none, ⟨k, h⟩ => exact ⟨k + 1, h.succ hs⟩
  | some (.ok _), h => exact PassAll.cons hs h
  | some (.error _), ⟨k, s', cause, hs', he, h⟩ => exact ⟨k + 1, s', cause, hs', he, h.succ hs⟩

end

/-- What a target does: it looks whether the run is cancelled, and if not does a step and goes on as
the result calls for. -/
theorem attemptAll_cons (files : Files) (t : String) (s : Step) (r : List Step) :
    attemptAll files t (s :: r) = .look fun cancelled =>
      if cancelled then .fail ⟨t, s.instanceName, s.describe, .cancelled⟩
      else (s.activity files).andThen fun
        | .ok () => attemptAll files t r
        | .error e => .fail ⟨t, s.instanceName, s.describe, e⟩ := by
  show Activity.look _ = Activity.look _
  congr 1
  funext cancelled
  cases cancelled with
  | true => rfl
  | false =>
    refine (Activity.bind_mapResult (s.activity files) _ _).trans ?_
    congr 1
    funext result
    cases result <;> rfl

/-- In the turns of what a target does its steps come to what is left of the work. -/
theorem stage_of_goesOn {w : Work TargetError Unit}
    (h : (Work.ready (attemptAll x.files t steps)).GoesOn x.world t turns trips w) :
    x.Stage t steps turns trips w.result? := by
  induction steps generalizing turns trips with
  | nil =>
    obtain ⟨rfl, rfl, rfl⟩ := h.of_result? rfl
    exact PassAll.nil
  | cons s r ih =>
    rw [attemptAll_cons] at h
    cases h with
    | rest _ => exact ⟨0, .zero (.inl ⟨rfl, rfl⟩)⟩
    | sends h he _ =>
      -- a look sends nothing
      cases h
      exact absurd he (List.cons_ne_self _ _).symm
    | @quiet _ _ _ j _ turns trips h _ hr =>
      cases h
      cases hj : j.cancelled with
      | true =>
        -- the step is not begun
        simp only [hj, if_true] at hr
        obtain ⟨rfl, rfl, rfl⟩ := hr.of_result? rfl
        exact ⟨0, s, .cancelled, rfl, rfl, .zero (.refused hj)⟩
      | false =>
        simp only [hj, Bool.false_eq_true, if_false] at hr
        rcases Work.goesOn_andThen (w := .ready (s.activity x.files)) hr with
          ⟨w', hs, hnone, rfl⟩ | ⟨result, turns₁, turns₂, trips₁, trips₂, rfl, rfl, hs, hr⟩
        · -- the step is under way
          rw [Work.result?_andThen hnone]
          exact ⟨0, .zero (.inr ⟨s, w', rfl, .begun hj hs⟩)⟩
        · cases result with
          | ok _ => exact (ih hr).cons (.begun hj hs)
          | error cause =>
            -- nothing is done after the failure
            obtain ⟨rfl, rfl, rfl⟩ := hr.of_result? rfl
            rw [List.append_nil, List.append_nil]
            exact ⟨0, s, cause, rfl, rfl, .zero (.begun hj hs)⟩

/-- A step that stands before the end of a front stands in it after the steps before. -/
theorem exists_take_eq {k k' : Nat} (hs : steps[k]? = some s) (hlt : k < k') :
    ∃ l, steps.take k' = steps.take k ++ s :: l := by
  obtain ⟨m, rfl⟩ := Nat.exists_eq_add_of_lt hlt
  refine ⟨(steps.drop (k + 1)).take m, ?_⟩
  rw [Nat.add_right_comm, List.take_add, List.take_add_one, hs, List.append_assoc]
  rfl

variable {e e' : TargetError} {k k' : Nat}

/-- No step behind one that fails is reached. -/
theorem FailsAt.not_lt (h : x.FailsAt t steps turns trips e k)
    (h' : x.FailsAt t steps turns trips e' k') : ¬ k < k' := by
  intro hlt
  obtain ⟨s, cause, hs, -, hk⟩ := h
  obtain ⟨_, _, _, _, turns₁, turns₂, _, _, hturns, _, hpass, _⟩ := h'
  obtain ⟨l, hl⟩ := exists_take_eq hs hlt
  exact hk.not_passAll (hl ▸ hpass) hturns

/-- At most one step is the first that fails. -/
theorem FailsAt.unique (h : x.FailsAt t steps turns trips e k)
    (h' : x.FailsAt t steps turns trips e' k') : k' = k :=
  Nat.le_antisymm (Nat.not_lt.1 (h.not_lt h')) (Nat.not_lt.1 (h'.not_lt h))

/-- Where a step fails not all of them pass. -/
theorem FailsAt.not_passAll (h : x.FailsAt t steps turns trips e k) :
    ¬ x.PassAll t steps turns trips := by
  intro h'
  obtain ⟨s, cause, hs, -, hk⟩ := h
  obtain ⟨l, hl⟩ := exists_take_eq hs (List.getElem?_eq_some_iff.1 hs).1
  rw [List.take_length] at hl
  exact hk.not_passAll (hl ▸ h') (List.append_nil turns).symm

end Runner

/-! ## Moments -/

namespace Run

variable {r r' : Run} {beat : Beat}

/-- A step of a run in which no target goes on. -/
theorem step_of_goer?_none (h : r.goer? beat = none) :
    x.step beat r = r ∨ x.step beat r = r.cancel ∨ x.step beat r = x.pass r := by
  unfold goer? at h
  unfold Runner.step
  split
  · exact .inl rfl
  · rename_i hover
    split
    · exact .inr (.inl rfl)
    · split
      · exact .inr (.inr rfl)
      · rename_i hcancel hdue
        -- a run that is not over and in which no pass is due has a target in flight
        rw [if_neg hover, if_neg hcancel, if_neg hdue, List.head?_eq_none_iff] at h
        simp only [Runner.advance, h]
        exact .inl trivial

/-- A step of a run in which a target goes on. -/
theorem step_of_goer?_some {f : Flight} (h : r.goer? beat = some f) :
    ∃ before after, r.inFlight = before ++ f :: after ∧
      x.step beat r = r.goOn before f.target after (f.work.step x.world f.target r.journal) := by
  unfold goer? at h
  split at h
  · cases h
  · rename_i hover
    split at h
    · cases h
    · rename_i hcancel
      split at h
      · cases h
      · rename_i hdue
        obtain ⟨after, hafter⟩ := List.head?_eq_some_iff.1 h
        refine ⟨r.inFlight.take (beat.place % r.inFlight.length), after, ?_, ?_⟩
        · rw [← hafter, List.take_append_drop]
        · simp only [Runner.step, if_neg hover, if_neg hcancel, if_neg hdue, Runner.advance, hafter]

/-- What the targets of a run have done in the turns that they have taken. -/
structure Traced (x : Runner) (turns : String → List Journal) (r : Run) : Prop where
  /-- A pending target has done nothing. -/
  idle : ∀ t, r.status t = some .pending → turns t = [] ∧ (r.journal.part t).trips = []
  flying : ∀ f ∈ r.inFlight,
    (Work.ready (attemptAll x.files f.target (x.plan.steps f.target))).GoesOn x.world f.target
      (turns f.target) (r.journal.part f.target).trips f.work
  ended : ∀ t result, r.status t = some (.ofResult result) →
    (Work.ready (attemptAll x.files t (x.plan.steps t))).GoesOn x.world t (turns t)
      (r.journal.part t).trips (.ready (.ofResult result))

namespace Traced

variable {turns : String → List Journal} {order : List String}

/-- At the start no target has done anything. -/
theorem start (x : Runner) (hn : order.Nodup) (cancelled : Bool) :
    (Run.start order cancelled).Traced x fun _ => [] where
  idle _ _ := ⟨rfl, rfl⟩
  flying _ hf := nomatch hf
  ended _ result hs := absurd (eq_pending_of_start hn hs) (Status.ofResult_ne_pending result)

/-- If nothing is sent and pending targets are skipped at most, nothing is done. -/
theorem of_skipped (h : r.Traced x turns) (hq : r'.inFlight = r.inFlight)
    (hj : r'.journal.entries = r.journal.entries)
    (hs : ∀ t, r'.status t = r.status t ∨ ∃ reason, r'.status t = some (.skipped reason)) :
    r'.Traced x turns where
  idle t ht := by
    rw [Journal.part_of_entries hj]
    rcases hs t with he | ⟨reason, he⟩
    · exact h.idle t (he.symm.trans ht)
    · cases ht.symm.trans he
  flying f hf := by
    rw [Journal.part_of_entries hj]
    exact h.flying f (hq ▸ hf)
  ended t result ht := by
    rw [Journal.part_of_entries hj]
    rcases hs t with he | ⟨reason, he⟩
    · exact h.ended t result (he.symm.trans ht)
    · exact absurd (Option.some.inj (ht.symm.trans he)) (Status.ofResult_ne_skipped result reason)

theorem notice (h : r.Traced x turns) : r.notice.Traced x turns := by
  refine h.of_skipped (Runner.inFlight_notice r)
    (congrArg Journal.entries (Runner.notice_frame r).1) fun t => ?_
  rw [status_notice]
  split
  · exact .inr ⟨.cancelled, rfl⟩
  · exact .inl rfl

theorem skip (h : r.Traced x turns) : (x.skip r).Traced x turns :=
  h.of_skipped rfl rfl fun t =>
    (x.status_skip r t).imp_right fun ⟨_, d, _, hs, _⟩ => ⟨.dependency d, hs⟩

/-- A target that is launched has done nothing. -/
theorem launchOne {name : String} (h : r.Traced x turns) (hr : x.isReady r name = true) :
    (x.launchOne r name).Traced x turns := by
  have hstatus := x.status_launchOne r name
  refine ⟨fun t ht => h.idle t ?_, fun f hf => ?_, fun t result ht => ?_⟩
  · rw [hstatus] at ht
    split at ht
    · cases ht
    · exact ht
  · rcases List.mem_append.1 hf with hf | hf
    · exact h.flying f hf
    · cases List.mem_singleton.1 hf
      obtain ⟨hturns, htrips⟩ := h.idle name ((x.isReady_iff r name).1 hr).1
      show Work.GoesOn _ name _ (turns name) (r.journal.part name).trips _
      rw [hturns, htrips]
      exact .rest _
  · rw [hstatus] at ht
    split at ht
    · cases result <;> cases ht
    · exact h.ended t result ht

theorem pass (h : r.Traced x turns) : (x.pass r).Traced x turns :=
  x.pass_keeps (fun _ h => h.notice) (fun _ h => h.skip) (fun _ _ h _ _ hr => h.launchOne hr)
    (fun _ h => ⟨h.idle, h.flying, h.ended⟩) h

/-- A target that has come to a result ends with it. -/
theorem goOn_ended {before after : Queue} {f : Flight} {result : Except TargetError Unit}
    (h : r.Traced x turns) (hq : r.inFlight = before ++ f :: after)
    (hw : f.work.result? = some result) :
    (r.goOn before f.target after (r.journal, .ended result)).Traced x turns := by
  have hstatus := r.status_goOn_ended before after f.target r.journal result
  refine ⟨fun t ht => h.idle t ?_, fun g hg => h.flying g ((mem_inFlight hq).2 (.inr hg)),
    fun t result' ht => ?_⟩
  · rw [hstatus] at ht
    split at ht
    · exact absurd (Option.some.inj ht) (Status.ofResult_ne_pending result)
    · exact ht
  · rw [hstatus] at ht
    split at ht
    · subst t
      have hsame : result = result' := by
        cases result <;> cases result' <;> cases ht <;> rfl
      have hflying := h.flying f ((mem_inFlight hq).2 (.inl rfl))
      rw [Work.eq_of_result? hw, hsame] at hflying
      exact hflying
    · exact h.ended t result' ht

/-- A target that has no result yet takes a turn. -/
theorem goOn_left {before after : Queue} {f : Flight} {j : Journal} {work : Work TargetError Unit}
    (h : r.Traced x turns) (hv : r.Valid x order) (hq : r.inFlight = before ++ f :: after)
    (hs : f.work.step x.world f.target r.journal = (j, .left work)) :
    (r.goOn before f.target after (j, .left work)).Traced x fun t =>
      turns t ++ if f.target = t then [r.journal] else [] := by
  have hrun := hv.running hq
  have hgoes := Work.goes_step x.world f.target r.journal f.work
  rw [hs] at hgoes
  refine ⟨fun t ht => ?_, fun g hg => ?_, fun t result ht => ?_⟩
  · have hne : f.target ≠ t := by
      rintro rfl
      cases hrun.symm.trans ht
    rw [if_neg hne, List.append_nil, Run.journal_goOn, hgoes.part_of_ne hne]
    exact h.idle t ht
  · rw [Run.journal_goOn]
    rcases Queue.mem_goOn.1 hg with rfl | hg
    · -- the turn is the last one of the target
      obtain ⟨trips, hturn, hsent⟩ := Work.GoesOn.single hs
      have hall := (h.flying f ((mem_inFlight hq).2 (.inl rfl))).trans hturn
      rw [if_pos rfl]
      rcases hsent with ⟨he, rfl⟩ | ⟨trip, he, rfl⟩
      · rw [List.append_nil] at hall
        rwa [Journal.part_of_entries he]
      · rwa [Journal.trips_part_cons he]
    · have hne := hv.target_ne hq hg
      rw [if_neg hne, List.append_nil, hgoes.part_of_ne hne]
      exact h.flying g ((mem_inFlight hq).2 (.inr hg))
  · have hne : f.target ≠ t := by
      rintro rfl
      cases result <;> cases hrun.symm.trans ht
    rw [if_neg hne, List.append_nil, Run.journal_goOn, hgoes.part_of_ne hne]
    exact h.ended t result ht

/-- In a step of a run at most one target goes on, by a turn. -/
theorem step (h : r.Traced x turns) (hv : r.Valid x order) (beat : Beat) :
    (x.step beat r).Traced x fun t => turns t ++ r.turn beat t := by
  cases hgoer : r.goer? beat with
  | none =>
    have hsame : (fun t => turns t ++ r.turn beat t) = turns := by
      funext t
      simp only [turn, hgoer, List.append_nil]
    rw [hsame]
    rcases step_of_goer?_none (x := x) hgoer with he | he | he
    · rw [he]
      exact h
    · rw [he]
      exact h.of_skipped rfl rfl fun _ => .inl rfl
    · rw [he]
      exact h.pass
  | some f =>
    obtain ⟨before, after, hq, he⟩ := step_of_goer?_some (x := x) hgoer
    cases hw : f.work.result? with
    | some result =>
      have hsame : (fun t => turns t ++ r.turn beat t) = turns := by
        funext t
        simp [turn, hgoer, hw]
      rw [hsame, he, Work.step_of_result? hw]
      exact h.goOn_ended hq hw
    | none =>
      have hone : (fun t => turns t ++ r.turn beat t) =
          fun t => turns t ++ if f.target = t then [r.journal] else [] := by
        funext t
        simp [turn, hgoer, hw]
      obtain ⟨j, work, hs⟩ := Work.exists_left_of_result? hw x.world f.target r.journal
      rw [hone, he, hs]
      exact h.goOn_left hv hq hs

end Traced

end Run

namespace Runner

variable {order : List String} {i : Interleaving} {cancelled : Bool}

/-- At every moment the targets have done what their turns make of their steps. -/
theorem traced_moment (ho : x.plan.Ordered order) (n : Nat) :
    (x.moment i order cancelled n).Traced x fun t => x.turns i order cancelled t n := by
  induction n with
  | zero => exact .start x ho.nodup cancelled
  | succ n ih => exact ih.step (valid_moment ho n).1 (i n)

/-- What a target that was launched has done in its turns. -/
structure DoneInOrder (x : Runner) (t : String) (status : Status) (turns : List Journal)
    (trips : List Trip) : Prop where
  stands : x.Stands t (x.plan.steps t) turns trips
  /-- The target completes exactly if all of its steps pass. -/
  completed : status.isTerminal = true →
    (status = .completed ↔ x.PassAll t (x.plan.steps t) turns trips)
  /-- The target fails with the error of the first step that does not pass. -/
  failed : ∀ e, status = .failed e → ∃! k, x.FailsAt t (x.plan.steps t) turns trips e k

end Runner

namespace Run.Traced

variable {r : Run} {turns : String → List Journal} {order : List String} {t : String}
  {status : Status}

/-- What a run has traced of a target is done in the order of its steps. -/
theorem doneInOrder (h : r.Traced x turns) (hv : r.Valid x order) (hs : r.status t = some status)
    (hb : status.hasBegun = true) :
    x.DoneInOrder t status (turns t) (r.journal.part t).trips := by
  cases status with
  | pending => cases hb
  | skipped _ => cases hb
  | running =>
    obtain ⟨f, hf, rfl⟩ := List.mem_map.1 ((hv.flying t).1 hs)
    exact ⟨(Runner.stage_of_goesOn (h.flying f hf)).stands, fun ht => (by cases ht),
      fun e he => (by cases he)⟩
  | completed =>
    have hpass : x.PassAll t (x.plan.steps t) (turns t) (r.journal.part t).trips :=
      Runner.stage_of_goesOn (h.ended t (.ok ()) hs)
    exact ⟨hpass.stands, fun _ => ⟨fun _ => hpass, fun _ => rfl⟩, fun e he => (by cases he)⟩
  | failed e =>
    obtain ⟨k, hk⟩ : ∃ k, x.FailsAt t (x.plan.steps t) (turns t) (r.journal.part t).trips e k :=
      Runner.stage_of_goesOn (h.ended t (.error e) hs)
    refine ⟨hk.stands, fun _ => ⟨fun he => (by cases he), fun hpass => ?_⟩, fun e' he => ?_⟩
    · exact absurd hpass hk.not_passAll
    · cases he
      exact ⟨k, hk, fun k' hk' => hk.unique hk'⟩

end Run.Traced

namespace Runner

variable {order : List String} {i : Interleaving} {cancelled : Bool}

/-- Every target that was launched does its steps in order, at every moment of a run, whatever the
world answers, in whichever order targets go on and whenever the run is cancelled. What it has sent
is what its first steps, which have passed, and the next one have sent in its turns, one after the
other; each is begun only after the one before it has passed. When the target has ended, as every
such target has when the run is over, it has completed exactly if all steps have passed. If it has
failed there is exactly one step that has failed, or was not begun for a cancellation, after all
steps before it have passed. The error is that of this step, and nothing is sent after it. -/
theorem executeIn_in_order {requested : List String} (hs : x.plan.schedule requested = .ok order)
    (i : Interleaving) (cancelled : Bool) :
    (∃ n, x.ended i order cancelled = x.moment i order cancelled n ∧
      (x.ended i order cancelled).isOver = true ∧
      (x.executeIn i requested cancelled).1 = (x.ended i order cancelled).journal) ∧
    ∀ n t status, (x.moment i order cancelled n).status t = some status →
      status.hasBegun = true →
        x.DoneInOrder t status (x.turns i order cancelled t n)
          ((x.moment i order cancelled n).journal.part t).trips ∧
        ((x.moment i order cancelled n).isOver = true → status.isTerminal = true) := by
  have ho := Plan.ordered_of_schedule hs
  constructor
  · obtain ⟨n, hn, hover⟩ := exists_moment_loop x i order cancelled
    exact ⟨n, hn.symm, hover, by rw [executeIn_of_ok hs]⟩
  · intro n t status hstatus hb
    have hv : (x.moment i order cancelled n).Valid x order := (valid_moment ho n).1
    refine ⟨(traced_moment ho n).doneInOrder hv hstatus hb, fun hover => ?_⟩
    -- when a run is over nothing is in flight
    cases status with
    | pending => cases hb
    | skipped _ => cases hb
    | completed => rfl
    | failed _ => rfl
    | running =>
      obtain ⟨f, hf, -⟩ := List.mem_map.1 ((hv.flying t).1 hstatus)
      have hempty : (x.moment i order cancelled n).inFlight = [] := by
        simpa [Run.isOver] using (Bool.and_eq_true_iff.1 hover).2
      rw [hempty] at hf
      cases hf

end Runner

namespace Sample

/-- A plan of one target with three steps. -/
def chain : Plan :=
  ⟨⟨[("app", ⟨[], [.login ⟨"SQL02", "reader", none, none, []⟩,
    .login ⟨"SQL01", "writer", none, none, []⟩, .login ⟨"SQL02", "owner", none, none, []⟩]⟩)],
    by decide⟩⟩

/-- A runner of the plan where the instance of the second step refuses connections. -/
def chained : Runner :=
  ⟨chain, fun _ => .error "no such file", refusing [], 2⟩

/-- The error of the second step. -/
def writerRefused : TargetError :=
  ⟨"app", "SQL01", "login writer", .transport (.connect "SQL01" "refused")⟩

end Sample

/-- The target of the sample fails at the second of its steps only. -/
theorem Runner.executeIn_in_order_sample :
    Sample.chained.plan.schedule ["app"] = .ok ["app"] ∧
    (Sample.chained.moment .fromFront ["app"] false 8).status "app" =
      some (.failed Sample.writerRefused) ∧
    ∃! k, Sample.chained.FailsAt "app" (Sample.chained.plan.steps "app")
      (Sample.chained.turns .fromFront ["app"] false "app" 8)
      ((Sample.chained.moment .fromFront ["app"] false 8).journal.part "app").trips
      Sample.writerRefused k := by
  have hs : Sample.chained.plan.schedule ["app"] = .ok ["app"] := by
    show Sample.chain.schedule ["app"] = .ok ["app"]
    cbv
  have hstatus : (Sample.chained.moment .fromFront ["app"] false 8).status "app" =
      some (.failed Sample.writerRefused) := by decide +kernel
  obtain ⟨-, hdone⟩ := executeIn_in_order hs .fromFront false
  exact ⟨hs, hstatus, (hdone 8 "app" _ hstatus rfl).1.failed _ rfl⟩

end Rollout
