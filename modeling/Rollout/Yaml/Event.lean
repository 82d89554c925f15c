import Rollout.Yaml.Token

/-!
# Events of YAML

The events that tokens stand for: scalars, aliases, and the starts and ends of collections and
documents. Where the tokens break off or do not fit the grammar, the events break off; the events
of a text without fault end in `streamEnd`.
-/

namespace Rollout.Yaml

/-- What a node carries besides its content. -/
structure Marks where
  anchor : Option String
  tag : Option String

/-- An event. -/
inductive Event where
  | streamEnd
  | documentStart
  | documentEnd
  | alias (name : String)
  | scalar (marks : Marks) (text : String) (plain : Bool)
  | sequenceStart (marks : Marks)
  | sequenceEnd
  | mappingStart (marks : Marks)
  | mappingEnd

/-- What the grammar expects next. -/
inductive Expected where
  | implicitDocument
  | document
  | documentContent
  | documentEnd
  | node
  | blockSequenceEntry (first : Bool)
  | indentlessEntry
  | blockMappingKey (first : Bool)
  | blockMappingValue
  | flowSequenceEntry (first : Bool)
  | flowPairKey
  | flowPairValue
  | flowPairEnd
  | flowMappingKey (first : Bool)
  | flowMappingValue (empty : Bool)
  | nothing

/-- The state of the grammar: the tokens left, what is expected now and what after it, and the
handles of tags that the document declares. -/
structure Grammar where
  tokens : List Token
  expected : Expected
  after : List Expected
  handles : List (String × String)

/-- An event and the state behind it. -/
abbrev Grammar.Next := Option (Event × Grammar)

/-- No marks at all. -/
def Marks.none : Marks :=
  ⟨Option.none, Option.none⟩

namespace Grammar

/-- Goes on with what was to come after the present expectation. -/
def pop (g : Grammar) : Grammar :=
  match g.after with
  | e :: es => { g with expected := e, after := es }
  | [] => { g with expected := .nothing }

/-- The empty scalar, with an expectation behind it. -/
def emptyScalar (g : Grammar) (e : Expected) : Next :=
  some (.scalar Marks.none "" true, { g with expected := e })

/-- The text that a tag stands for; its handle must be declared. -/
def resolveTag (g : Grammar) (handle text : String) : Option String :=
  if handle.isEmpty then some text
  else (g.handles.find? fun p => p.1 == handle).map fun p => p.2 ++ text

/-- The anchor and the tag of a node, in either order, and the tokens behind them. -/
def takeMarks (g : Grammar) : Option (Marks × List Token) :=
  match g.tokens with
  | .anchor a :: .tag h t :: r => (g.resolveTag h t).map fun tag => (⟨some a, some tag⟩, r)
  | .tag h t :: .anchor a :: r => (g.resolveTag h t).map fun tag => (⟨some a, some tag⟩, r)
  | .anchor a :: r => some (⟨some a, none⟩, r)
  | .tag h t :: r => (g.resolveTag h t).map fun tag => (⟨none, some tag⟩, r)
  | r => some (Marks.none, r)

/-- The marks of a scalar: a lone exclamation mark is no tag. -/
def scalarMarks (m : Marks) : Marks :=
  if m.tag = some "!" then { m with tag := none } else m

/-- A node. Blocks may begin where `block` says so, and a sequence without indentation where
`indentless` does. -/
def node (g : Grammar) (block indentless : Bool) : Next :=
  match g.tokens with
  | .alias name :: r => some (.alias name, { g with tokens := r }.pop)
  | _ =>
    match g.takeMarks with
    | none => none
    | some (m, ts) =>
      let g := { g with tokens := ts }
      match ts with
      | [] => none
      | .scalar text plain :: r =>
        some (.scalar (scalarMarks m) text plain, { g with tokens := r }.pop)
      | .flowSequenceStart :: _ =>
        some (.sequenceStart m, { g with expected := .flowSequenceEntry true })
      | .flowMappingStart :: _ =>
        some (.mappingStart m, { g with expected := .flowMappingKey true })
      | t :: _ =>
        let empty : Next :=
          if m.anchor.isSome || m.tag.isSome then some (.scalar m "" true, g.pop) else none
        match t with
        | .blockEntry =>
          if indentless then some (.sequenceStart m, { g with expected := .indentlessEntry })
          else empty
        | .blockSequenceStart =>
          if block then some (.sequenceStart m, { g with expected := .blockSequenceEntry true })
          else empty
        | .blockMappingStart =>
          if block then some (.mappingStart m, { g with expected := .blockMappingKey true })
          else empty
        | _ => empty

/-- A node with an expectation behind it. -/
def nodeThen (g : Grammar) (e : Expected) (block indentless : Bool) : Next :=
  { g with after := e :: g.after }.node block indentless

/-- The end of a collection, with some tokens behind it. -/
def closeWith (g : Grammar) (e : Event) (r : List Token) : Next :=
  some (e, { g with tokens := r }.pop)

/-- The handles that every document knows. -/
def standardHandles : List (String × String) :=
  [("!", "!"), ("!!", "tag:yaml.org,2002:")]

/-- Reads directives: at most one version, which is 1.1 or 1.2, and each handle at most once. -/
def directives (versioned : Bool) (handles : List (String × String)) :
    List Token → Option (List (String × String) × List Token)
  | .directive (.version major minor) :: r =>
    if versioned || major != 1 || (minor != 1 && minor != 2) then none
    else directives true handles r
  | .directive (.tag handle front) :: r =>
    if handles.any fun p => p.1 == handle then none
    else directives versioned (handles ++ [(handle, front)]) r
  | [] => none
  | r => some (handles ++ standardHandles, r)

/-- A document that begins with directives or its mark. -/
def explicitDocument (g : Grammar) : Next :=
  match directives false [] g.tokens with
  | some (handles, .documentStart :: r) =>
    some (.documentStart, ⟨r, .documentContent, .documentEnd :: g.after, handles⟩)
  | _ => none

/-- A document, or the end of the stream; the first document may begin without a mark. -/
def document (g : Grammar) (implicit : Bool) : Next :=
  match g.tokens with
  | [] => none
  | .streamEnd :: r => some (.streamEnd, { g with tokens := r, expected := .nothing })
  | .directive _ :: _ => g.explicitDocument
  | .documentStart :: _ => g.explicitDocument
  | _ =>
    if implicit then
      some (.documentStart,
        ⟨g.tokens, .node, .documentEnd :: g.after, standardHandles⟩)
    else none

/-- Tokens without the marks of ends of documents at their front. -/
def dropEnds (g : Grammar) : Grammar :=
  { g with tokens := g.tokens.dropWhile fun | .documentEnd => true | _ => false }

/-- The content of a document behind its mark, which may be empty. -/
def documentContent (g : Grammar) : Next :=
  match g.tokens with
  | .directive _ :: _ => some (.scalar Marks.none "" true, g.pop)
  | .documentStart :: _ => some (.scalar Marks.none "" true, g.pop)
  | .documentEnd :: _ => some (.scalar Marks.none "" true, g.pop)
  | .streamEnd :: _ => some (.scalar Marks.none "" true, g.pop)
  | _ => g.node true false

/-- The end of a document. -/
def closeDocument (g : Grammar) : Next :=
  match g.tokens with
  | [] => none
  | .documentEnd :: r => some (.documentEnd, ⟨r, .document, g.after, []⟩)
  | r => some (.documentEnd, ⟨r, .document, g.after, []⟩)

/-- An entry of a block sequence or its end. -/
def blockSequenceEntry (g : Grammar) (first : Bool) : Next :=
  match (if first then g.tokens.drop 1 else g.tokens) with
  | [.blockEntry] => none
  | .blockEntry :: r =>
    let g := { g with tokens := r }
    match r with
    | .blockEntry :: _ => g.emptyScalar (.blockSequenceEntry false)
    | .blockEnd :: _ => g.emptyScalar (.blockSequenceEntry false)
    | _ => g.nodeThen (.blockSequenceEntry false) true false
  | .blockEnd :: r => g.closeWith .sequenceEnd r
  | _ => none

/-- An entry of a sequence that is not indented, or its end. -/
def indentlessEntry (g : Grammar) : Next :=
  match g.tokens with
  | [] => none
  | [.blockEntry] => none
  | .blockEntry :: r =>
    let g := { g with tokens := r }
    match r with
    | .blockEntry :: _ => g.emptyScalar .indentlessEntry
    | .key :: _ => g.emptyScalar .indentlessEntry
    | .value :: _ => g.emptyScalar .indentlessEntry
    | .blockEnd :: _ => g.emptyScalar .indentlessEntry
    | _ => g.nodeThen .indentlessEntry true false
  | r => g.closeWith .sequenceEnd r

/-- The node behind a mark of a block mapping, which may be empty. -/
def blockMappingPart (g : Grammar) (r : List Token) (e : Expected) : Next :=
  let g := { g with tokens := r }
  match r with
  | [] => none
  | .key :: _ => g.emptyScalar e
  | .value :: _ => g.emptyScalar e
  | .blockEnd :: _ => g.emptyScalar e
  | _ => g.nodeThen e true true

/-- A key of a block mapping or its end. -/
def blockMappingKey (g : Grammar) (first : Bool) : Next :=
  match (if first then g.tokens.drop 1 else g.tokens) with
  | .key :: r => g.blockMappingPart r .blockMappingValue
  | .blockEnd :: r => g.closeWith .mappingEnd r
  | _ => none

/-- A value of a block mapping, which may be empty. -/
def blockMappingValue (g : Grammar) : Next :=
  match g.tokens with
  | [] => none
  | .value :: r => g.blockMappingPart r (.blockMappingKey false)
  | _ => g.emptyScalar (.blockMappingKey false)

/-- Tokens of a flow collection behind the comma that stands before every entry but the first; the
opening bracket stands before the first one. -/
def behindComma (g : Grammar) (first : Bool) : Option (List Token) :=
  if first then some (g.tokens.drop 1)
  else match g.tokens with
    | .flowEntry :: r => some r
    | _ => none

/-- An entry of a flow sequence or its end. -/
def flowSequenceEntry (g : Grammar) (first : Bool) : Next :=
  match first, g.tokens with
  | false, .flowSequenceEnd :: r => g.closeWith .sequenceEnd r
  | _, _ =>
    match g.behindComma first with
    | none => none
    | some [] => none
    | some (.flowSequenceEnd :: r) => g.closeWith .sequenceEnd r
    | some (.key :: r) =>
      some (.mappingStart Marks.none, { g with tokens := r, expected := .flowPairKey })
    | some r => { g with tokens := r }.nodeThen (.flowSequenceEntry false) false false

/-- The key of a single pair in a flow sequence; an empty key swallows the mark behind it. -/
def flowPairKey (g : Grammar) : Next :=
  match g.tokens with
  | [] => none
  | .value :: r => { g with tokens := r }.emptyScalar .flowPairValue
  | .flowEntry :: r => { g with tokens := r }.emptyScalar .flowPairValue
  | .flowSequenceEnd :: r => { g with tokens := r }.emptyScalar .flowPairValue
  | _ => g.nodeThen .flowPairValue false false

/-- The value of a single pair in a flow sequence. -/
def flowPairValue (g : Grammar) : Next :=
  match g.tokens with
  | [] => none
  | .value :: r =>
    let g := { g with tokens := r }
    match r with
    | [] => none
    | .flowEntry :: _ => g.emptyScalar .flowPairEnd
    | .flowSequenceEnd :: _ => g.emptyScalar .flowPairEnd
    | _ => g.nodeThen .flowPairEnd false false
  | _ => g.emptyScalar .flowPairEnd

/-- The end of a single pair in a flow sequence. -/
def flowPairEnd (g : Grammar) : Next :=
  if g.tokens.isEmpty then none
  else some (.mappingEnd, { g with expected := .flowSequenceEntry false })

/-- A key of a flow mapping or its end. -/
def flowMappingKey (g : Grammar) (first : Bool) : Next :=
  match first, g.tokens with
  | false, .flowMappingEnd :: r => g.closeWith .mappingEnd r
  | _, _ =>
    match g.behindComma first with
    | none => none
    | some [] => none
    | some (.flowMappingEnd :: r) => g.closeWith .mappingEnd r
    | some (.key :: r) =>
      let g := { g with tokens := r }
      match r with
      | [] => none
      | .value :: _ => g.emptyScalar (.flowMappingValue false)
      | .flowEntry :: _ => g.emptyScalar (.flowMappingValue false)
      | .flowMappingEnd :: _ => g.emptyScalar (.flowMappingValue false)
      | _ => g.nodeThen (.flowMappingValue false) false false
    | some r => { g with tokens := r }.nodeThen (.flowMappingValue true) false false

/-- A value of a flow mapping, which may be empty. -/
def flowMappingValue (g : Grammar) (empty : Bool) : Next :=
  match empty, g.tokens with
  | _, [] => none
  | false, .value :: r =>
    let g := { g with tokens := r }
    match r with
    | [] => none
    | .flowEntry :: _ => g.emptyScalar (.flowMappingKey false)
    | .flowMappingEnd :: _ => g.emptyScalar (.flowMappingKey false)
    | _ => g.nodeThen (.flowMappingKey false) false false
  | _, _ => g.emptyScalar (.flowMappingKey false)

/-- The next event. -/
def next (g : Grammar) : Next :=
  match g.expected with
  | .implicitDocument => g.document true
  | .document => g.dropEnds.document false
  | .documentContent => g.documentContent
  | .documentEnd => g.closeDocument
  | .node => g.node true false
  | .blockSequenceEntry first => g.blockSequenceEntry first
  | .indentlessEntry => g.indentlessEntry
  | .blockMappingKey first => g.blockMappingKey first
  | .blockMappingValue => g.blockMappingValue
  | .flowSequenceEntry first => g.flowSequenceEntry first
  | .flowPairKey => g.flowPairKey
  | .flowPairValue => g.flowPairValue
  | .flowPairEnd => g.flowPairEnd
  | .flowMappingKey first => g.flowMappingKey first
  | .flowMappingValue empty => g.flowMappingValue empty
  | .nothing => none

/-- The events from a state on, at most a given number of them. -/
def run : Nat → Grammar → List Event
  | 0, _ => []
  | steps + 1, g => match g.next with
    | none => []
    | some (e, g) => e :: run steps g

end Grammar

/-- The events of a list of tokens; no token stands for more than six of them. -/
def eventsOf (ts : List Token) : List Event :=
  Grammar.run (6 * ts.length + 8) ⟨ts, .implicitDocument, [], []⟩

/-- The events of a text. -/
def events (cs : List Char) : List Event :=
  eventsOf (tokens cs)

end Rollout.Yaml
