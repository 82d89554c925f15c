import Rollout.Template

/-!
# Arguments of the command line

A value for a parameter is given as its name, an equals sign and the value. Blanks around the name
do not count; the value is taken as it is, and of two values for a parameter the last one counts.
-/

namespace Rollout.Command

/-- What is wrong with an argument. -/
inductive ArgumentError where
  | unassigned (raw : String)
  | nameless (raw : String)
  deriving DecidableEq, Repr

/-- The wording of an error. -/
def ArgumentError.message : ArgumentError → String
  | unassigned raw => s!"argument '{raw}' must be NAME=VALUE"
  | nameless raw => s!"argument '{raw}' has an empty name"

/-- The name and the value that an argument gives. -/
def parseArgument (raw : String) : Except ArgumentError (String × String) :=
  match Text.cutAt '=' raw.toList with
  | none => .error (.unassigned raw)
  | some (name, value) =>
    match Text.trimChars name with
    | [] => .error (.nameless raw)
    | name => .ok (String.ofList name, String.ofList value)

/-- The values that arguments give on top of others, up to the first argument that is wrong. -/
def parseArgumentsOnto (values : Params) : List String → Except ArgumentError Params
  | [] => .ok values
  | raw :: r => match parseArgument raw with
    | .error e => .error e
    | .ok (name, value) => parseArgumentsOnto (values.put name value) r

/-- The values that arguments give. -/
def parseArguments (raws : List String) : Except ArgumentError Params :=
  parseArgumentsOnto Listing.empty raws

end Rollout.Command
