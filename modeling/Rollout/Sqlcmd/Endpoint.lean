import Rollout.Listing

/-!
# Endpoints

Where and how an instance is reached. An instance without settings of its own is reached by its
name, with the rights of the user who runs the program.
-/

namespace Rollout.Sqlcmd

/-- How to authenticate. -/
inductive Auth where
  | integrated
  | login (user password : String)
  deriving DecidableEq, Repr

/-- Where and how an instance is reached. -/
structure Endpoint where
  server : String
  auth : Auth
  trustsCertificate : Bool
  deriving DecidableEq, Repr

/-- How the program that talks to instances is run. Timeouts are seconds, and a timeout of zero for
queries is none. -/
structure Settings where
  program : String
  loginTimeout : Nat
  queryTimeout : Nat
  deriving DecidableEq, Repr

/-- The settings for which nothing else is given. -/
def Settings.default : Settings :=
  ⟨"sqlcmd", 15, 0⟩

/-- How instances are reached. -/
structure Connector where
  settings : Settings
  endpoints : Listing Endpoint

/-- The endpoint of an instance. -/
def Connector.endpoint (c : Connector) (instanceName : String) : Endpoint :=
  (c.endpoints.get? instanceName).getD ⟨instanceName, .integrated, false⟩

end Rollout.Sqlcmd
