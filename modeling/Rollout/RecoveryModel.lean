import Rollout.Text.Case

/-!
# Recovery models

The recovery model of a database, with the words a manifest may use for it and the words T-SQL and
a printed plan use.
-/

namespace Rollout

/-- How a database keeps its transaction log. -/
inductive RecoveryModel where
  | full
  | bulkLogged
  | simple
  deriving DecidableEq, Repr, Inhabited

namespace RecoveryModel

/-- The keyword of a recovery model in T-SQL. -/
def keyword : RecoveryModel → String
  | .full => "FULL"
  | .bulkLogged => "BULK_LOGGED"
  | .simple => "SIMPLE"

/-- The word for a recovery model in a printed plan. -/
def word : RecoveryModel → String
  | .full => "full"
  | .bulkLogged => "bulk_logged"
  | .simple => "simple"

/-- The recovery model that a word names, in any case; an unknown word is an error that quotes it
in lower case. -/
def read (s : String) : Except String RecoveryModel :=
  match Text.lowered s with
  | "full" => .ok full
  | "bulk_logged" => .ok bulkLogged
  | "bulk-logged" => .ok bulkLogged
  | "simple" => .ok simple
  | other => .error s!"unknown recovery model '{other}'"

end RecoveryModel

end Rollout
