import Rollout.Run.Execute
import Rollout.Sqlcmd.Endpoint
import Rollout.Toml.Document

/-!
# The configuration of the tool

How many targets run at once, how the client program is run, and how single instances are reached.
Every setting has a default, and names that mean nothing are passed over. Passwords do not stand in
the configuration but in the variables of the environment that it names.
-/

namespace Rollout

open Rollout.Toml (Node Entries)

/-- The settings of an instance. -/
structure InstanceSettings where
  server : Option String
  user : Option String
  passwordVariable : Option String
  trustsCertificate : Bool
  deriving DecidableEq, Repr

/-- The configuration of the tool. -/
structure Config where
  maxParallel : Nat
  sqlcmd : Sqlcmd.Settings
  instances : Listing InstanceSettings

/-- What is wrong with the text of a configuration. -/
inductive ConfigError where
  | malformed
  | noParallel
  deriving DecidableEq, Repr

/-- The wording of an error. -/
def ConfigError.message : ConfigError → String
  | malformed => "TOML parse error"
  | noParallel => "execution.max_parallel must be at least 1"

/-- What is wrong with the settings of an instance. -/
inductive EndpointError where
  | noVariable (instanceName : String)
  | unset (instanceName name : String)
  deriving DecidableEq, Repr

/-- The wording of an error. -/
def EndpointError.message : EndpointError → String
  | noVariable i => s!"instance '{i}' sets user but no password_env"
  | unset i v => s!"instance '{i}': environment variable {v} is not set"

namespace Config

/-- The configuration that sets nothing. -/
def default : Config :=
  ⟨defaultMaxParallel, .default, Listing.empty⟩

/-- The settings under some names: a table holds them by name and a list by place, and a time holds
none of them. -/
def settingsOf (names : List String) : Node → Option Entries
  | .table _ entries => some entries
  | .list items => some (names.zip items)
  | .tables items => some (names.zip items)
  | .time => some []
  | _ => none

/-- The setting under a name, or its default if there is none. -/
def setting {α : Type} (entries : Entries) (name : String) (default : α)
    (read : Node → Option α) : Option α :=
  match lookPair name entries with
  | some node => read node
  | none => some default

/-- A whole number below a bound. -/
def naturalBelow (bound : Nat) : Node → Option Nat
  | .integer n => if 0 ≤ n ∧ n.toNat < bound then some n.toNat else none
  | _ => none

/-- A text. -/
def string : Node → Option String
  | .string s => some s
  | _ => none

/-- A truth value. -/
def boolean : Node → Option Bool
  | .boolean b => some b
  | _ => none

/-- The number of targets that run at once. -/
def readExecution (node : Node) : Option Nat := do
  let entries ← settingsOf ["max_parallel"] node
  setting entries "max_parallel" defaultMaxParallel (naturalBelow UInt64.size)

/-- How the client program is run. -/
def readSqlcmd (node : Node) : Option Sqlcmd.Settings := do
  let entries ← settingsOf ["program", "login_timeout", "query_timeout"] node
  let usual := Sqlcmd.Settings.default
  let program ← setting entries "program" usual.program string
  let loginTimeout ← setting entries "login_timeout" usual.loginTimeout (naturalBelow UInt32.size)
  let queryTimeout ← setting entries "query_timeout" usual.queryTimeout (naturalBelow UInt32.size)
  return ⟨program, loginTimeout, queryTimeout⟩

/-- The settings of an instance. -/
def readInstance (node : Node) : Option InstanceSettings := do
  let names := ["server", "user", "password_env", "trust_server_certificate"]
  let entries ← settingsOf names node
  let text (name : String) := setting entries name none fun node => (string node).map some
  let server ← text "server"
  let user ← text "user"
  let passwordVariable ← text "password_env"
  let trustsCertificate ← setting entries "trust_server_certificate" false boolean
  return ⟨server, user, passwordVariable, trustsCertificate⟩

/-- Instances with their settings. -/
def readInstanceEntries : Entries → Option (List (String × InstanceSettings))
  | [] => some []
  | (name, node) :: r => do
    let settings ← readInstance node
    let rest ← readInstanceEntries r
    return (name, settings) :: rest

/-- The settings of instances by their names. -/
def readInstances : Node → Option (Listing InstanceSettings)
  | .table _ entries => (readInstanceEntries entries).map Listing.ofList
  | _ => none

/-- The configuration that entries hold. -/
def ofEntries (entries : Entries) : Option Config := do
  let maxParallel ← setting entries "execution" defaultMaxParallel readExecution
  let sqlcmd ← setting entries "sqlcmd" .default readSqlcmd
  let instances ← setting entries "instances" Listing.empty readInstances
  return ⟨maxParallel, sqlcmd, instances⟩

/-- The configuration that a text holds. -/
def ofText (text : String) : Except ConfigError Config :=
  match (Toml.entriesOf text).bind ofEntries with
  | none => .error .malformed
  | some c => if c.maxParallel = 0 then .error .noParallel else .ok c

/-- The variables of the environment that hold passwords. -/
def passwordVariables (c : Config) : List String :=
  c.instances.entries.filterMap fun (_, s) => s.passwordVariable

/-- The endpoint of an instance with settings; `lookup` gives the variables of the environment. -/
def endpoint (lookup : String → Option String) (name : String) (s : InstanceSettings) :
    Except EndpointError Sqlcmd.Endpoint :=
  let server := s.server.getD name
  match s.user with
  | none => .ok ⟨server, .integrated, s.trustsCertificate⟩
  | some user => match s.passwordVariable with
    | none => .error (.noVariable name)
    | some v => match lookup v with
      | none => .error (.unset name v)
      | some password => .ok ⟨server, .login user password, s.trustsCertificate⟩

/-- The endpoints of instances, up to the first that has none. -/
def endpointEntries (lookup : String → Option String) : List (String × InstanceSettings) →
    Except EndpointError (List (String × Sqlcmd.Endpoint))
  | [] => .ok []
  | (name, s) :: r => match endpoint lookup name s with
    | .error e => .error e
    | .ok e => (endpointEntries lookup r).map ((name, e) :: ·)

/-- The endpoints of the instances with settings. -/
def endpoints (c : Config) (lookup : String → Option String) :
    Except EndpointError (Listing Sqlcmd.Endpoint) :=
  (endpointEntries lookup c.instances.entries).map Listing.ofList

/-- How instances are reached. -/
def connector (c : Config) (lookup : String → Option String) :
    Except EndpointError Sqlcmd.Connector :=
  (c.endpoints lookup).map fun endpoints => ⟨c.sqlcmd, endpoints⟩

end Config

end Rollout
