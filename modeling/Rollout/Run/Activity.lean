import Rollout.Run.StepError

/-!
# Activities

An activity is work that talks to instances: it ends with a value or an error, looks whether the
run has been cancelled, or asks for a round trip and goes on as the answer tells. Activities say
what is sent and in which order; they send nothing themselves.
-/

namespace Rollout

/-- A row of a result: the texts of its columns. -/
abbrev Row := List String

/-- A round trip to an instance. A batch runs in a database if one is in use on its connection. -/
inductive Trip where
  | connect (instanceName : String)
  | execute (instanceName : String) (database : Option String) (sql : String)
  | query (instanceName : String) (database : Option String) (sql : String)
  deriving DecidableEq, Repr

namespace Trip

/-- The instance that a round trip goes to. -/
def instanceName : Trip → String
  | connect i => i
  | execute i _ _ => i
  | query i _ _ => i

/-- The batch that a round trip sends; a connection sends none. -/
def sql : Trip → String
  | connect _ => ""
  | execute _ _ sql => sql
  | query _ _ sql => sql

end Trip

/-- What a round trip brings: rows, or the reason why there are none. -/
abbrev Answer := Except StepError (List Row)

/-- Work that talks to instances, with errors in `ε` and values in `α`. -/
inductive Activity (ε α : Type) where
  | done (value : α)
  | fail (error : ε)
  /-- Looks whether the run has been cancelled. -/
  | look (next : Bool → Activity ε α)
  /-- Asks for a round trip. -/
  | ask (trip : Trip) (next : Answer → Activity ε α)

namespace Activity

variable {ε ε' α β : Type}

/-- An activity followed by one that depends on its value. -/
def bind (a : Activity ε α) (f : α → Activity ε β) : Activity ε β :=
  match a with
  | done value => f value
  | fail error => fail error
  | look next => look fun cancelled => (next cancelled).bind f
  | ask trip next => ask trip fun answer => (next answer).bind f

instance : Monad (Activity ε) where
  pure := done
  bind := bind

/-- The activity that ends at once with a result. -/
def ofResult : Except ε α → Activity ε α
  | .ok value => done value
  | .error error => fail error

/-- An activity whose result is turned into another one. -/
def mapResult (f : Except ε α → Except ε' β) : Activity ε α → Activity ε' β
  | done value => ofResult (f (.ok value))
  | fail error => ofResult (f (.error error))
  | look next => look fun cancelled => (next cancelled).mapResult f
  | ask trip next => ask trip fun answer => (next answer).mapResult f

/-- An activity whose failure, cancellation apart, does not matter. -/
def tolerant (a : Activity StepError α) : Activity StepError (Option α) :=
  a.mapResult bestEffort

/-- What may remain of an activity right after it has looked or has had an answer. -/
inductive Follows : Activity ε α → Activity ε α → Prop where
  | look (next : Bool → Activity ε α) (cancelled : Bool) : Follows (next cancelled) (look next)
  | ask (trip : Trip) (next : Answer → Activity ε α) (answer : Answer) :
    Follows (next answer) (ask trip next)

/-- Whatever the answers are, an activity comes to an end. -/
theorem wellFounded_follows : WellFounded (@Follows ε α) := by
  refine ⟨fun a => ?_⟩
  induction a with
  | done _ => exact ⟨_, fun _ h => nomatch h⟩
  | fail _ => exact ⟨_, fun _ h => nomatch h⟩
  | look next ih => exact ⟨_, fun _ h => by cases h; exact ih _⟩
  | ask trip next ih => exact ⟨_, fun _ h => by cases h; exact ih _⟩

end Activity

end Rollout
