import Rollout.Run.World
import Rollout.Sqlcmd.Endpoint
import Rollout.Sqlcmd.Rows

/-!
# Calls of the client program

Each round trip is one call of the program: the batch goes to its standard input, and the password
to its environment, never to its arguments. A connection is tried by a batch that asks for nothing.
-/

namespace Rollout.Sqlcmd

/-- A call of a program. -/
structure Call where
  program : String
  arguments : List String
  password : Option String
  input : String
  deriving DecidableEq, Repr

/-- What a program leaves when it ends. -/
structure Outcome where
  exitCode : Int
  output : String
  errors : String
  deriving DecidableEq, Repr

/-- How programs are run: the outcome of a call, or why the program could not be run. -/
abbrev Launcher := Call → Except String Outcome

/-- The arguments of a call that goes to an endpoint, with a database in use or none. -/
def argumentsFor (s : Settings) (e : Endpoint) (database : Option String) : List String :=
  ["-S", e.server, "-b", "-x", "-I", "-h", "-1", "-W", "-s", "\t", "-l", toString s.loginTimeout] ++
    (if 0 < s.queryTimeout then ["-t", toString s.queryTimeout] else []) ++
    (match database with
      | some db => ["-d", db]
      | none => []) ++
    (match e.auth with
      | .integrated => ["-E"]
      | .login user _ => ["-U", user]) ++
    (if e.trustsCertificate then ["-C"] else [])

/-- The password that goes to the environment of a call. -/
def Auth.password? : Auth → Option String
  | integrated => none
  | login _ password => some password

/-- The batch that is sent for a round trip. A query asks for rows only. -/
def scriptOf : Trip → String
  | .connect _ => "SELECT 1"
  | .execute _ _ sql => sql
  | .query _ _ sql => "SET NOCOUNT ON;\n" ++ sql

/-- The database in which a round trip runs. -/
def databaseOf : Trip → Option String
  | .connect _ => none
  | .execute _ db _ => db
  | .query _ db _ => db

namespace Connector

/-- The call for a round trip. -/
def call (c : Connector) (trip : Trip) : Call :=
  let e := c.endpoint trip.instanceName
  ⟨c.settings.program, argumentsFor c.settings e (databaseOf trip), e.auth.password?,
    scriptOf trip ++ "\nGO\n"⟩

end Connector

/-- Whether a call can be handed to the system: no text of it holds a zero character. -/
def Call.isPassable (call : Call) : Bool :=
  (call.program :: call.arguments ++ call.password.toList).all fun s => !s.toList.contains '\x00'

/-- The outcome of a call, or the message that tells why there is none. -/
def Launcher.run (launch : Launcher) (call : Call) : Except String Outcome :=
  if call.isPassable then launch call else .error "nul byte found in provided data"

/-- What a failed program says: its errors, or its output if there are none. -/
def Outcome.message (o : Outcome) : String :=
  if Text.isBlankText o.errors then Text.trim o.output else Text.trim o.errors

/-- The output of a call, or the failure of the round trip that it was made for. -/
def outputOf (program instanceName : String) :
    Except String Outcome → Except TransportError String
  | .error message => .error (.spawn program message)
  | .ok o =>
    if o.exitCode = 0 then .ok o.output
    else .error (.command instanceName o.exitCode o.message)

/-- What the output of a call brings for a round trip. Any failure to connect is told as one. -/
def answerOf (trip : Trip) (output : Except TransportError String) : Answer :=
  match trip, output with
  | .connect i, .error e => .error (.transport (.connect i e.message))
  | _, .error e => .error (.transport e)
  | .query _ _ _, .ok text => .ok (parseRows text)
  | _, .ok _ => .ok []

/-- The answer to a round trip. -/
def Connector.answer (c : Connector) (launch : Launcher) (trip : Trip) : Answer :=
  answerOf trip
    (outputOf c.settings.program trip.instanceName (launch.run (c.call trip)))

/-- The world in which round trips are calls of a program. -/
def Connector.world (c : Connector) (launch : Launcher) : World :=
  ⟨fun _ entry => ⟨c.answer launch entry.trip, false, []⟩⟩

end Rollout.Sqlcmd
