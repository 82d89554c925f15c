import Rollout.Text.Cut
import Rollout.Text.Numeral

/-!
# Words of the command line

A command takes words at places and options by name. An option is given by its long name behind two
dashes or by its letter behind one; its value stands behind an equals sign, directly behind the
letter, or as the next word. Behind two dashes alone every word goes to a place. What is wrong with
a value counts only when the next option or place is reached, and so does a missing one.
-/

namespace Rollout.Command

/-- Why words give no command to carry out. -/
inductive Refusal where
  | help
  | version
  /-- No words at all, which asks for help. -/
  | noWords
  | noCommand
  | unknownCommand
  | unknownArgument
  | missingArgument
  | noValue
  | notANumber
  | repeated
  | needlessValue
  deriving DecidableEq, Repr

/-- What an option or a place takes. -/
inductive Takes where
  | nothing
  | text
  /-- A path, which is not empty. -/
  | path
  /-- A natural number of 64 bits. -/
  | number
  | help
  | version
  deriving DecidableEq, Repr

/-- Something that can be given by name or at a place, once or as often as one likes. -/
structure Slot where
  name : String
  takes : Takes
  many : Bool
  deriving DecidableEq, Repr

/-- An option with its letter, if it has one. -/
structure Choice where
  letter : Option Char
  slot : Slot

/-- What a command takes, and the refusal of a word for which it has no place. -/
structure Form where
  choices : List Choice
  places : List Slot
  required : List String
  surplus : Refusal

/-- How far the words of a command are read: what is given, with the values of what is at hand, the
number of places that are full, and whether an option waits for its value. -/
structure Progress where
  given : List (String × String)
  atHand : Option (Slot × List String)
  filled : Nat
  waiting : Bool
  trailing : Bool

/-- The start of the reading. -/
def Progress.start : Progress :=
  ⟨[], none, 0, false, false⟩

namespace Progress

/-- Takes one value of a slot. -/
def takeValue (p : Progress) (slot : Slot) (value : String) : Except Refusal Progress :=
  let taken := { p with given := p.given ++ [(slot.name, value)] }
  match slot.takes with
  | .path => if value.isEmpty then .error .noValue else .ok taken
  | .number => if (Text.uint64? value.toList).isSome then .ok taken else .error .notANumber
  | _ => .ok taken

/-- Takes the values of a slot. -/
def take (p : Progress) (slot : Slot) (values : List String) : Except Refusal Progress :=
  if slot.takes = .help then .error .help
  else if slot.takes = .version then .error .version
  else if slot.takes = .nothing then
    if (p.given.map Prod.fst).contains slot.name then .error .repeated
    else .ok { p with given := p.given ++ [(slot.name, "")] }
  else if values.isEmpty then .error .noValue
  else if !slot.many && (p.given.map Prod.fst).contains slot.name then .error .repeated
  else values.foldlM (fun p value => p.takeValue slot value) p

/-- Takes what is at hand. -/
def settle (p : Progress) : Except Refusal Progress :=
  match p.atHand with
  | none => .ok p
  | some (slot, values) => take { p with atHand := none } slot values

/-- The progress with no option waiting for its value. -/
def atRest (p : Progress) : Progress :=
  { p with waiting := false }

/-- Reads an option that is known, with the value that is attached to it, if any is. -/
def choose (p : Progress) (slot : Slot) (attached : Option String) : Except Refusal Progress := do
  let p ← p.settle
  match slot.takes, attached with
  | .text, none => return { p with atHand := some (slot, []), waiting := true }
  | .path, none => return { p with atHand := some (slot, []), waiting := true }
  | .number, none => return { p with atHand := some (slot, []), waiting := true }
  | _, none => take (atRest p) slot []
  | _, some value => take (atRest p) slot [value]

/-- Reads an option that is given by its long name. -/
def readLong (form : Form) (p : Progress) (body : List Char) : Except Refusal Progress :=
  let (name, attached) := match Text.cutAt '=' body with
    | some (name, value) => (String.ofList name, some (String.ofList value))
    | none => (String.ofList body, none)
  match form.choices.find? (·.slot.name == name) with
  | none => .error .unknownArgument
  | some c =>
    if attached.isSome && !(c.slot.takes matches .text | .path | .number) then
      .error .needlessValue
    else p.choose c.slot attached

/-- Reads options that are given by their letters, up to one that takes the rest as its value. -/
def readLetters (form : Form) (p : Progress) : List Char → Except Refusal Progress
  | [] => .ok p
  | letter :: rest =>
    match form.choices.find? (·.letter == some letter) with
    | none => .error .unknownArgument
    | some c =>
      if c.slot.takes matches .text | .path | .number then
        match rest with
        | [] => p.choose c.slot none
        | '=' :: value => p.choose c.slot (some (String.ofList value))
        | value => p.choose c.slot (some (String.ofList value))
      else match p.choose c.slot none with
        | .error e => .error e
        | .ok p => p.readLetters form rest

/-- Reads a word that goes to a place. -/
def readPlace (form : Form) (p : Progress) (word : String) : Except Refusal Progress :=
  match form.places[p.filled]? with
  | none => .error form.surplus
  | some slot =>
    if slot.many then
      match p.atHand with
      | some (other, values) =>
        if other = slot then .ok { p with atHand := some (slot, values ++ [word]) }
        else p.settle.map fun p => { p with atHand := some (slot, [word]) }
      | none => .ok { p with atHand := some (slot, [word]) }
    else p.settle.map fun p =>
      { p with atHand := some (slot, [word]), filled := p.filled + 1 }

/-- Reads a word that is no option: the value that an option waits for, or one for a place. -/
def readPlain (form : Form) (p : Progress) (word : String) : Except Refusal Progress :=
  match p.waiting, p.atHand with
  | true, some (slot, values) =>
    .ok { p with atHand := some (slot, values ++ [word]), waiting := false }
  | _, _ => p.readPlace form word

/-- Reads a word. -/
def readWord (form : Form) (p : Progress) (word : String) : Except Refusal Progress :=
  if p.trailing then p.readPlace form word
  else match word.toList with
    | ['-', '-'] => .ok { p with trailing := true, waiting := false }
    | '-' :: '-' :: body => p.readLong form body
    | '-' :: letter :: rest => p.readLetters form (letter :: rest)
    | _ => p.readPlain form word

/-- Ends the reading. -/
def finish (form : Form) (p : Progress) : Except Refusal Progress := do
  let p ← p.settle
  if form.required.all (p.given.map Prod.fst).contains then return p
  else throw .missingArgument

/-- The values that a slot was given. -/
def valuesOf (p : Progress) (name : String) : List String :=
  (p.given.filter (·.1 == name)).map Prod.snd

/-- The value that a slot was given, if it was given one. -/
def value? (p : Progress) (name : String) : Option String :=
  (p.valuesOf name).head?

/-- Whether an option was given. -/
def isGiven (p : Progress) (name : String) : Bool :=
  (p.given.map Prod.fst).contains name

end Progress

/-- Reads the words of a command. -/
def Form.read (form : Form) (words : List String) : Except Refusal Progress := do
  let p ← words.foldlM (fun p word => p.readWord form word) Progress.start
  p.finish form

end Rollout.Command
