import Rollout.Proofs.Run.Steps

/-!
# Work in turns

A target in flight goes on in turns, between which other targets do. `Work.GoesOn` says to what some
work comes in turns that are told by the journals in which they are taken, and what it sends. The
turns determine both (`GoesOn.split`), and work that has come to a result takes no further turn
(`GoesOn.of_result?`). An activity that is followed by what its result calls for either is still
under way after some turns, or has come to its result in the first of them and is followed in the
others (`goesOn_andThen`).
-/

namespace Rollout

variable {ε ε' α β : Type} {world : World} {target : String} {j j' : Journal}

namespace Work

/-- The result of work that has come to one. -/
def result? : Work ε α → Option (Except ε α)
  | ready (.done value) => some (.ok value)
  | ready (.fail error) => some (.error error)
  | _ => none

/-- How work goes on in some turns, each in the journal as it is then: the round trips that it sends
and the work that is left. -/
inductive GoesOn (world : World) (target : String) :
    Work ε α → List Journal → List Trip → Work ε α → Prop
  | rest (w : Work ε α) : GoesOn world target w [] [] w
  | quiet {w w' w'' : Work ε α} {j j' : Journal} {turns : List Journal} {trips : List Trip}
    (h : w.step world target j = (j', .left w')) (he : j'.entries = j.entries)
    (hr : GoesOn world target w' turns trips w'') : GoesOn world target w (j :: turns) trips w''
  | sends {w w' w'' : Work ε α} {j j' : Journal} {turns : List Journal} {trip : Trip}
    {trips : List Trip} (h : w.step world target j = (j', .left w'))
    (he : j'.entries = ⟨target, trip⟩ :: j.entries) (hr : GoesOn world target w' turns trips w'') :
    GoesOn world target w (j :: turns) (trip :: trips) w''

variable {w w' w'' : Work ε α} {turns turns' : List Journal} {trips trips' : List Trip}
  {result : Except ε α}

/-- Work that has come to a result is nothing but that result. -/
theorem eq_of_result? (h : w.result? = some result) : w = ready (.ofResult result) := by
  unfold result? at h
  split at h
  · cases h
    rfl
  · cases h
    rfl
  · cases h

@[simp] theorem result?_ofResult (result : Except ε α) :
    (ready (.ofResult result)).result? = some result := by
  cases result <;> rfl

/-- Work that has come to a result ends in its next turn. -/
theorem step_of_result? (h : w.result? = some result) :
    w.step world target j = (j, .ended result) := by
  rw [eq_of_result? h]
  cases result <;> rfl

/-- Work that has not come to a result stays in flight. -/
theorem exists_left_of_result? (h : w.result? = none) (world : World) (target : String)
    (j : Journal) : ∃ j' w', w.step world target j = (j', .left w') := by
  have hgoes := goes_step world target j w
  generalize w.step world target j = s at hgoes
  cases hgoes with
  | done _ => cases h
  | fail _ => cases h
  | look _ => exact ⟨_, _, rfl⟩
  | refused _ _ _ => exact ⟨_, _, rfl⟩
  | answered _ _ _ _ => exact ⟨_, _, rfl⟩
  | sent _ _ _ _ _ _ => exact ⟨_, _, rfl⟩
  | interrupted _ _ _ _ _ => exact ⟨_, _, rfl⟩
  | received _ _ _ _ => exact ⟨_, _, rfl⟩
  | paused _ _ _ _ _ _ => exact ⟨_, _, rfl⟩

namespace GoesOn

/-- A single turn. -/
theorem single (h : w.step world target j = (j', .left w')) :
    ∃ trips, w.GoesOn world target [j] trips w' ∧
      (j'.entries = j.entries ∧ trips = [] ∨
        ∃ trip, j'.entries = ⟨target, trip⟩ :: j.entries ∧ trips = [trip]) := by
  have hgoes := goes_step world target j w
  rw [h] at hgoes
  rcases hgoes.entries with he | ⟨-, trip, he⟩
  · exact ⟨[], .quiet h he (.rest w'), .inl ⟨he, rfl⟩⟩
  · exact ⟨[trip], .sends h he (.rest w'), .inr ⟨trip, he, rfl⟩⟩

/-- Turns one after the other add up, and so do the round trips in them. -/
theorem trans (h : w.GoesOn world target turns trips w')
    (h' : w'.GoesOn world target turns' trips' w'') :
    w.GoesOn world target (turns ++ turns') (trips ++ trips') w'' := by
  induction h with
  | rest w => exact h'
  | quiet h he _ ih => exact .quiet h he (ih h')
  | sends h he _ ih => exact .sends h he (ih h')

/-- Turns determine what comes of them. -/
theorem split (h : w.GoesOn world target turns trips w')
    (h' : w.GoesOn world target (turns ++ turns') trips' w'') :
    ∃ rest, trips' = trips ++ rest ∧ w'.GoesOn world target turns' rest w'' := by
  induction h generalizing trips' with
  | rest w => exact ⟨trips', rfl, h'⟩
  | quiet h he _ ih =>
    cases h' with
    | quiet hs _ hr =>
      cases h.symm.trans hs
      exact ih hr
    | sends hs he' _ =>
      cases h.symm.trans hs
      exact absurd (he'.symm.trans he) (List.cons_ne_self _ _)
  | sends h he _ ih =>
    cases h' with
    | quiet hs he' _ =>
      cases h.symm.trans hs
      exact absurd (he.symm.trans he') (List.cons_ne_self _ _)
    | sends hs he' hr =>
      cases h.symm.trans hs
      cases List.head_eq_of_cons_eq (he.symm.trans he')
      obtain ⟨rest, rfl, hrest⟩ := ih hr
      exact ⟨rest, rfl, hrest⟩

/-- Work that has come to a result takes no further turn. -/
theorem of_result? (hw : w.result? = some result) (h : w.GoesOn world target turns trips w') :
    turns = [] ∧ trips = [] ∧ w' = w := by
  cases h with
  | rest _ => exact ⟨rfl, rfl, rfl⟩
  | quiet h _ _ => cases (step_of_result? hw).symm.trans h
  | sends h _ _ => cases (step_of_result? hw).symm.trans h

end GoesOn

end Work

/-! ## One activity after the other -/

namespace Activity

/-- An activity followed by what its result calls for. -/
def andThen (a : Activity ε α) (k : Except ε α → Activity ε' β) : Activity ε' β :=
  match a with
  | done value => k (.ok value)
  | fail error => k (.error error)
  | look next => look fun cancelled => (next cancelled).andThen k
  | ask trip next => ask trip fun answer => (next answer).andThen k

/-- To turn the result of an activity into another one, and then to go on if that is no failure, is
to go on as the result calls for. -/
theorem bind_mapResult (a : Activity ε α) (g : Except ε α → Except ε' β) {γ : Type}
    (f : β → Activity ε' γ) :
    a.mapResult g >>= f = a.andThen fun result => ofResult (g result) >>= f := by
  show (a.mapResult g).bind f = _
  induction a with
  | done value => rfl
  | fail error => rfl
  | look next ih =>
    simp only [mapResult, Activity.bind, andThen, ih]
  | ask trip next ih =>
    simp only [mapResult, Activity.bind, andThen, ih]

end Activity

namespace Work

/-- Work followed by what its result calls for. -/
def andThen (w : Work ε α) (k : Except ε α → Activity ε' β) : Work ε' β :=
  match w with
  | ready a => ready (a.andThen k)
  | waiting trip pauses answer next => waiting trip pauses answer fun answer =>
      (next answer).andThen k

variable {w : Work ε α} {k : Except ε α → Activity ε' β} {w'' : Work ε' β}
  {turns : List Journal} {trips : List Trip}

theorem andThen_of_result? {result : Except ε α} (h : w.result? = some result) :
    w.andThen k = ready (k result) := by
  rw [eq_of_result? h]
  cases result <;> rfl

theorem result?_andThen (h : w.result? = none) (k : Except ε α → Activity ε' β) :
    (w.andThen k).result? = none := by
  cases w with
  | ready a =>
    cases a with
    | done _ => cases h
    | fail _ => cases h
    | look _ => rfl
    | ask _ _ => rfl
  | waiting => rfl

/-- What follows work does not matter to it as long as it has no result. -/
theorem step_andThen {w' : Work ε α} (h : w.step world target j = (j', .left w')) :
    (w.andThen k).step world target j = (j', .left (w'.andThen k)) := by
  have hgoes := goes_step world target j w
  rw [h] at hgoes
  cases hgoes with
  | look next => rfl
  | refused trip next hc => simp [andThen, Activity.andThen, step, hc]
  | answered trip next hc hp => simp [andThen, Activity.andThen, step, hc, hp]
  | sent trip next cancels more hc hp => simp [andThen, Activity.andThen, step, hc, hp]
  | interrupted trip pauses answer next hc => simp [andThen, step, hc]
  | received trip answer next hc => simp [andThen, step, hc]
  | paused trip cancels more answer next hc => simp [andThen, step, hc]

/-- Work that is followed by what its result calls for either has no result yet after some turns, or
has come to it in the first of them and is followed in the others. -/
theorem goesOn_andThen (h : (w.andThen k).GoesOn world target turns trips w'') :
    (∃ w', w.GoesOn world target turns trips w' ∧ w'.result? = none ∧ w'' = w'.andThen k) ∨
      ∃ result turns₁ turns₂ trips₁ trips₂, turns = turns₁ ++ turns₂ ∧ trips = trips₁ ++ trips₂ ∧
        w.GoesOn world target turns₁ trips₁ (ready (.ofResult result)) ∧
        (ready (k result)).GoesOn world target turns₂ trips₂ w'' := by
  induction turns generalizing w trips with
  | nil =>
    cases hw : w.result? with
    | none =>
      cases h
      exact .inl ⟨w, .rest w, hw, rfl⟩
    | some result =>
      rw [andThen_of_result? hw] at h
      exact .inr ⟨result, [], [], [], trips, rfl, rfl, eq_of_result? hw ▸ .rest w, h⟩
  | cons j turns ih =>
    cases hw : w.result? with
    | none =>
      -- the turn is one of the work
      obtain ⟨j', w', hs⟩ := exists_left_of_result? hw world target j
      cases h with
      | quiet h he hr =>
        cases (step_andThen hs).symm.trans h
        rcases ih hr with ⟨w₁, h₁, hnone, hw₁⟩ | ⟨result, t₁, t₂, s₁, s₂, rfl, rfl, h₁, h₂⟩
        · exact .inl ⟨w₁, .quiet hs he h₁, hnone, hw₁⟩
        · exact .inr ⟨result, j :: t₁, t₂, s₁, s₂, rfl, rfl, .quiet hs he h₁, h₂⟩
      | @sends _ _ _ _ _ _ trip _ h he hr =>
        cases (step_andThen hs).symm.trans h
        rcases ih hr with ⟨w₁, h₁, hnone, hw₁⟩ | ⟨result, t₁, t₂, s₁, s₂, rfl, rfl, h₁, h₂⟩
        · exact .inl ⟨w₁, .sends hs he h₁, hnone, hw₁⟩
        · exact .inr ⟨result, j :: t₁, t₂, trip :: s₁, s₂, rfl, rfl, .sends hs he h₁, h₂⟩
    | some result =>
      -- the work has come to its result before
      rw [andThen_of_result? hw] at h
      exact .inr ⟨result, [], _, [], _, rfl, rfl, eq_of_result? hw ▸ .rest w, h⟩

end Work

end Rollout
