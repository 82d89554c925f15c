import Rollout.Run.Flight

/-!
# Steps heed a cancellation

An activity heeds a cancellation if it fails for it as soon as it learns of it, be it by a look or
in the place of an answer. Sessions heed it, and what is put together from activities that heed it
does too, also where failures are tolerated (`Heeds.bind`, `Heeds.tolerant`). So everything that a
target does heeds it (`heeds_attemptAll`).
-/

namespace Rollout

variable {ε ε' α β : Type} {P : ε → Prop} {Q : ε' → Prop}

/-- The error of a step that fails because the run was cancelled. -/
abbrev StepError.IsCancelled (e : StepError) : Prop :=
  e = .cancelled

/-- The error of a target that fails because the run was cancelled. -/
abbrev TargetError.IsCancelled (e : TargetError) : Prop :=
  e.cause = .cancelled

namespace Activity

/-- Whether an activity, as long as it is not cancelled, asks for a round trip before it ends. -/
def asks : Activity ε α → Bool
  | done _ => false
  | fail _ => false
  | look next => (next false).asks
  | ask _ _ => true

/-- An activity that fails with one of some errors as soon as it learns of a cancellation. -/
inductive Heeds (P : ε → Prop) : Activity ε α → Prop where
  | done (value : α) : Heeds P (.done value)
  | fail (error : ε) : Heeds P (.fail error)
  | look {next : Bool → Activity ε α} {error : ε} (hc : next true = .fail error) (he : P error)
    (h : ∀ cancelled, Heeds P (next cancelled)) : Heeds P (.look next)
  | ask (trip : Trip) {next : Answer → Activity ε α} {error : ε}
    (hc : next (.error .cancelled) = .fail error) (he : P error)
    (h : ∀ answer, Heeds P (next answer)) : Heeds P (.ask trip next)

namespace Heeds

/-- An activity that looks at the cancellation and heeds it fails if it sees one. -/
theorem of_look {next : Bool → Activity ε α} (h : Heeds P (.look next)) :
    (∃ e, next true = .fail e ∧ P e) ∧ ∀ cancelled, Heeds P (next cancelled) := by
  cases h with
  | look hc he h => exact ⟨⟨_, hc, he⟩, h⟩

/-- An activity that waits for an answer and heeds a cancellation fails if it gets that in place of
the answer. -/
theorem of_ask {trip : Trip} {next : Answer → Activity ε α} (h : Heeds P (.ask trip next)) :
    (∃ e, next (.error .cancelled) = .fail e ∧ P e) ∧ ∀ answer, Heeds P (next answer) := by
  cases h with
  | ask _ hc he h => exact ⟨⟨_, hc, he⟩, h⟩

/-- A result that is there already is not kept back by a cancellation. -/
theorem ofResult (result : Except ε α) : Heeds P (Activity.ofResult result) := by
  cases result with
  | ok value => exact .done value
  | error e => exact .fail e

/-- An activity heeds a cancellation if both of its parts do. -/
theorem bind {a : Activity ε α} {f : α → Activity ε β} (ha : Heeds P a)
    (hf : ∀ value, Heeds P (f value)) : Heeds P (a >>= f) := by
  show Heeds P (a.bind f)
  induction ha with
  | done value => exact hf value
  | fail error => exact .fail error
  | look hc he _ ih => exact .look (by rw [hc, Activity.bind]) he ih
  | ask trip hc he _ ih => exact .ask trip (by rw [hc, Activity.bind]) he ih

/-- An activity heeds a cancellation also if its result is turned into another one, as long as the
errors for a cancellation stay such. -/
theorem mapResult {a : Activity ε α} {f : Except ε α → Except ε' β} (ha : Heeds P a)
    (hf : ∀ e, P e → ∃ e', f (.error e) = .error e' ∧ Q e') : Heeds Q (a.mapResult f) := by
  induction ha with
  | done value => exact .ofResult _
  | fail error => exact .ofResult _
  | look hc he _ ih =>
    obtain ⟨e', heq, he'⟩ := hf _ he
    exact .look (by rw [hc, Activity.mapResult, heq, Activity.ofResult]) he' ih
  | ask trip hc he _ ih =>
    obtain ⟨e', heq, he'⟩ := hf _ he
    exact .ask trip (by rw [hc, Activity.mapResult, heq, Activity.ofResult]) he' ih

/-- To tolerate failures is not to ignore a cancellation. -/
theorem tolerant {a : Activity StepError α} (h : a.Heeds StepError.IsCancelled) :
    a.tolerant.Heeds StepError.IsCancelled :=
  h.mapResult fun _ he => ⟨.cancelled, by rw [he, bestEffort], rfl⟩

end Heeds

end Activity

open Activity

namespace Session

/-- A session that is being opened is given up. -/
theorem heeds_connect (instanceName : String) :
    (connect instanceName).Heeds StepError.IsCancelled :=
  .ask _ rfl rfl fun _ => .ofResult _

/-- A batch that is being executed is given up. -/
theorem heeds_execute (s : Session) (sql : String) :
    (s.execute sql).Heeds StepError.IsCancelled :=
  .ask _ rfl rfl fun _ => .ofResult _

/-- A query that is being answered is given up. -/
theorem heeds_query (s : Session) (sql : String) :
    (s.query sql).Heeds StepError.IsCancelled :=
  .ask _ rfl rfl fun _ => .ofResult _

/-- Of batches one after the other, the one that is being executed is given up. -/
theorem heeds_executeAll (s : Session) (batches : List String) :
    (s.executeAll batches).Heeds StepError.IsCancelled := by
  induction batches with
  | nil => exact .done ()
  | cons sql r ih => exact (s.heeds_execute sql).bind fun _ => ih

end Session

open Session

namespace Step

/-- A step of one statement heeds a cancellation before and after it has its session. -/
theorem heeds_single (instanceName sql : String) :
    (single instanceName sql).Heeds StepError.IsCancelled :=
  (heeds_connect instanceName).bind fun session => session.heeds_execute sql

/-- A login may be cancelled at its creation and at each of its roles. -/
theorem Login.heeds_activity (s : Login) : s.activity.Heeds StepError.IsCancelled :=
  (heeds_connect s.instanceName).bind fun session =>
    (session.heeds_execute _).bind fun _ => session.heeds_executeAll _

/-- A database may be cancelled at each of its settings and scripts, and its files are read before
that. -/
theorem Database.heeds_activity (files : Files) (s : Database) :
    (s.activity files).Heeds StepError.IsCancelled :=
  (Heeds.ofResult _).bind fun _ => (heeds_connect s.instanceName).bind fun session =>
    (session.heeds_execute _).bind fun _ => (session.heeds_executeAll _).bind fun _ =>
    (session.heeds_executeAll _).bind fun _ => (session.use s.name).heeds_executeAll _

/-- The agent may fail to start, but not for a cancellation. -/
theorem Distributor.heeds_activity (s : Distributor) :
    s.activity.Heeds StepError.IsCancelled :=
  (heeds_connect s.instanceName).bind fun session =>
    (session.heeds_execute _).tolerant.bind fun _ => session.heeds_executeAll _

/-- The snapshot may fail to start, but not for a cancellation. -/
theorem Publication.heeds_activity (s : Publication) :
    s.activity.Heeds StepError.IsCancelled := by
  refine (heeds_connect s.instanceName).bind fun session => ?_
  refine (session.heeds_executeAll _).bind fun _ => ?_
  refine (session.heeds_execute _).bind fun _ => ?_
  refine (heeds_execute _ _).bind fun _ => (heeds_execute _ _).bind fun _ => ?_
  refine (heeds_executeAll _ _).bind fun _ => ?_
  exact (heeds_execute _ _).tolerant.bind fun _ => .done ()

/-- The agent of the subscription and the snapshot may fail, but not for a cancellation. -/
theorem PullSubscription.heeds_activity (s : PullSubscription) :
    s.activity.Heeds StepError.IsCancelled := by
  refine (heeds_connect s.instanceName).bind fun subscriber => ?_
  refine (heeds_connect s.publisherInstance).bind fun publisher => ?_
  refine (heeds_execute _ _).bind fun _ => (heeds_query _ _).bind fun rows => ?_
  refine (heeds_executeAll _ _).bind fun _ => (heeds_execute _ _).bind fun _ => ?_
  refine (heeds_execute _ _).tolerant.bind fun _ => ?_
  exact (heeds_execute _ _).tolerant.bind fun _ => .done ()

/-- Every step heeds a cancellation. -/
theorem heeds_activity (files : Files) (s : Step) :
    (s.activity files).Heeds StepError.IsCancelled := by
  cases s with
  | login s => exact s.heeds_activity
  | database s => exact s.heeds_activity files
  | distributor s => exact s.heeds_activity
  | publication s => exact s.heeds_activity
  | pullSubscription s => exact s.heeds_activity
  | backup s => exact heeds_single _ _
  | restore s => exact heeds_single _ _
  | mirroringEndpoint s => exact heeds_single _ _
  | mirroringPartner s => exact heeds_single _ _

end Step

/-- A step heeds a cancellation before it begins and at each of its round trips. -/
theorem Step.heeds_attempt (files : Files) (target : String) (s : Step) :
    (s.attempt files target).Heeds TargetError.IsCancelled := by
  -- the look before the step fails at once if the run is cancelled
  refine .look (by simp only [if_true]; rfl) rfl fun cancelled => ?_
  cases cancelled with
  | true => exact .fail _
  | false => exact (s.heeds_activity files).mapResult fun e he => ⟨_, rfl, he⟩

/-- Everything that a target does heeds a cancellation. -/
theorem heeds_attemptAll (files : Files) (target : String) (steps : List Step) :
    (attemptAll files target steps).Heeds TargetError.IsCancelled := by
  induction steps with
  | nil => exact .done ()
  | cons s r ih => exact (s.heeds_attempt files target).bind fun _ => ih

end Rollout
