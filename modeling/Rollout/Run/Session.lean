import Rollout.Run.Activity

/-!
# Sessions

A session is an open connection to one instance together with the database in use on it.
-/

namespace Rollout

/-- An open connection. -/
structure Session where
  instanceName : String
  database : Option String
  deriving DecidableEq, Repr

namespace Session

/-- Opens a connection to an instance; no database is in use on it. -/
def connect (instanceName : String) : Activity StepError Session :=
  .ask (.connect instanceName) fun answer => .ofResult (answer.map fun _ => ⟨instanceName, none⟩)

/-- The session with a database in use. -/
def use (s : Session) (database : String) : Session :=
  ⟨s.instanceName, some database⟩

/-- Sends a batch that brings no rows. -/
def execute (s : Session) (sql : String) : Activity StepError Unit :=
  .ask (.execute s.instanceName s.database sql) fun answer => .ofResult (answer.map fun _ => ())

/-- Sends a batch and brings its rows. -/
def query (s : Session) (sql : String) : Activity StepError (List Row) :=
  .ask (.query s.instanceName s.database sql) .ofResult

/-- Sends batches one after the other. -/
def executeAll (s : Session) : List String → Activity StepError Unit
  | [] => .done ()
  | sql :: r => do
    s.execute sql
    s.executeAll r

end Session

end Rollout
