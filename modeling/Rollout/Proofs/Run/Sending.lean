import Rollout.Run.Session

/-!
# What activities send

Whatever the answers are, every round trip that an activity asks for has some property. It is enough
that its parts have it, also where failures are tolerated (`Sends.bind`, `Sends.tolerant`).
-/

namespace Rollout

variable {ε ε' α β : Type} {P : Trip → Prop}

namespace Activity

/-- An activity that asks for round trips of a kind only, whatever it is answered. -/
inductive Sends (P : Trip → Prop) : Activity ε α → Prop where
  | done (value : α) : Sends P (.done value)
  | fail (error : ε) : Sends P (.fail error)
  | look {next : Bool → Activity ε α} (h : ∀ cancelled, Sends P (next cancelled)) :
    Sends P (.look next)
  | ask {trip : Trip} {next : Answer → Activity ε α} (htrip : P trip)
    (h : ∀ answer, Sends P (next answer)) : Sends P (.ask trip next)

namespace Sends

/-- A result that is there already sends nothing. -/
theorem ofResult (result : Except ε α) : Sends P (Activity.ofResult result) := by
  cases result with
  | ok value => exact .done value
  | error e => exact .fail e

/-- One activity after the other sends what both of them send. -/
theorem bind {a : Activity ε α} {f : α → Activity ε β} (ha : Sends P a)
    (hf : ∀ value, Sends P (f value)) : Sends P (a >>= f) := by
  show Sends P (a.bind f)
  induction ha with
  | done value => exact hf value
  | fail error => exact .fail error
  | look _ ih => exact .look ih
  | ask htrip _ ih => exact .ask htrip ih

/-- To turn a result into another one sends nothing. -/
theorem mapResult {a : Activity ε α} (ha : Sends P a) (f : Except ε α → Except ε' β) :
    Sends P (a.mapResult f) := by
  induction ha with
  | done value => exact .ofResult _
  | fail error => exact .ofResult _
  | look _ ih => exact .look ih
  | ask htrip _ ih => exact .ask htrip ih

/-- A failure is tolerated after the round trips, so they are the same ones. -/
theorem tolerant {a : Activity StepError α} (h : Sends P a) : Sends P a.tolerant :=
  h.mapResult bestEffort

end Sends

end Activity

open Activity

namespace Session

/-- To connect is one round trip. -/
theorem sends_connect {instanceName : String} (h : P (.connect instanceName)) :
    (connect instanceName).Sends P :=
  .ask h fun _ => .ofResult _

/-- A batch is one round trip, in the database that the session uses. -/
theorem sends_execute {s : Session} {sql : String}
    (h : P (.execute s.instanceName s.database sql)) : (s.execute sql).Sends P :=
  .ask h fun _ => .ofResult _

/-- A query is one round trip, in the database that the session uses. -/
theorem sends_query {s : Session} {sql : String}
    (h : P (.query s.instanceName s.database sql)) : (s.query sql).Sends P :=
  .ask h fun _ => .ofResult _

/-- Batches one after the other send nothing but themselves. -/
theorem sends_executeAll {s : Session} {batches : List String}
    (h : ∀ sql ∈ batches, P (.execute s.instanceName s.database sql)) :
    (s.executeAll batches).Sends P := by
  induction batches with
  | nil => exact .done ()
  | cons sql r ih =>
    obtain ⟨hsql, hr⟩ := List.forall_mem_cons.1 h
    exact (sends_execute hsql).bind fun _ => ih hr

end Session

end Rollout
