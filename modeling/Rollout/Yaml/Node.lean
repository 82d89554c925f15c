import Rollout.Listing
import Rollout.Yaml.Event

/-!
# Nodes of YAML

The tree of a document. An alias is a leaf that refers to an anchored node, and a place where the
events break off is a leaf of its own: whoever reads the tree in the order of the text meets every
complaint about the nodes in front of a fault before the fault itself.
-/

namespace Rollout.Yaml

/-- A node. -/
inductive Node where
  | scalar (tag : Option String) (text : String) (plain : Bool)
  | sequence (tag : Option String) (items : List Node)
  | mapping (tag : Option String) (entries : List (Node × Node))
  | alias (anchor : Nat)
  | broken
  deriving Inhabited

/-- The first document of a text. -/
structure Document where
  root : Node
  /-- The nodes that aliases refer to. -/
  anchored : List (Nat × Node)
  /-- The number of events of the document. -/
  size : Nat
  /-- Whether the text ends behind the document without a fault. -/
  sound : Bool

/-- A collection whose end has not been met; its nodes so far stand in reverse. -/
structure OpenNode where
  isMapping : Bool
  tag : Option String
  place : Nat
  anchored : Bool
  nodes : List Node

/-- The nodes of a mapping taken in pairs; a last key without a value gets a broken one. -/
def pairs : List Node → List (Node × Node)
  | [] => []
  | [k] => [(k, .broken)]
  | k :: v :: r => (k, v) :: pairs r

/-- The node of a collection with all its nodes. -/
def OpenNode.close (o : OpenNode) : Node :=
  if o.isMapping then .mapping o.tag (pairs o.nodes.reverse) else .sequence o.tag o.nodes.reverse

/-- A document under construction. -/
structure Builder where
  /-- The number of events read. -/
  place : Nat
  /-- The collections around the next event, innermost first. -/
  around : List OpenNode
  /-- The number of the anchor that a name refers to at present. -/
  names : List (String × Nat)
  /-- The places of anchored nodes by the numbers of their anchors, latest first. -/
  places : List (Nat × Nat)
  /-- The anchored nodes by their places. -/
  nodes : List (Nat × Node)
  root : Option Node

namespace Builder

/-- Nothing read. -/
def start : Builder :=
  ⟨0, [], [], [], [], none⟩

/-- Notes the anchor of the node that begins at the present place. An anchor takes as its number
the number of names known so far, so a name that is anchored anew may share the number of the next
new name. -/
def noteAnchor (b : Builder) (marks : Marks) : Builder :=
  match marks.anchor with
  | none => b
  | some name =>
    let number := b.names.length
    { b with
      names := putPair name number b.names
      places := (number, b.place) :: b.places }

/-- Adds a node that is complete. -/
def add (b : Builder) (n : Node) : Builder :=
  match b.around with
  | [] => { b with root := some n }
  | o :: os => { b with around := { o with nodes := n :: o.nodes } :: os }

/-- Opens a collection. -/
def openNode (b : Builder) (isMapping : Bool) (marks : Marks) : Builder :=
  let b := b.noteAnchor marks
  { b with around := ⟨isMapping, marks.tag, b.place, marks.anchor.isSome, []⟩ :: b.around }

/-- Closes the innermost collection. -/
def closeNode (b : Builder) : Builder :=
  match b.around with
  | [] => b
  | o :: os =>
    let n := o.close
    let nodes := if o.anchored then (o.place, n) :: b.nodes else b.nodes
    { b with around := os, nodes := nodes }.add n

/-- Closes all collections, from the innermost on. -/
def closeAll : Nat → Builder → Builder
  | 0, b => b
  | n + 1, b => closeAll n b.closeNode

/-- Breaks the document off at the present place. -/
def breakOff (b : Builder) : Builder :=
  if b.around.isEmpty && b.root.isSome then b else closeAll b.around.length (b.add .broken)

/-- The builder behind one event. -/
def behind (b : Builder) : Builder :=
  { b with place := b.place + 1 }

/-- Reads events up to the end of the document, and yields the events behind it if it is met. -/
def run (b : Builder) : List Event → Builder × Option (List Event)
  | .documentEnd :: r => (b, some r)
  | .alias name :: r => match lookPair name b.names with
    | some number => run (b.add (.alias number)).behind r
    | none => (b.breakOff, none)
  | .scalar marks text plain :: r =>
    let n := Node.scalar marks.tag text plain
    let b := b.noteAnchor marks
    let b := if marks.anchor.isSome then { b with nodes := (b.place, n) :: b.nodes } else b
    run (b.add n).behind r
  | .sequenceStart marks :: r => run (b.openNode false marks).behind r
  | .mappingStart marks :: r => run (b.openNode true marks).behind r
  | .sequenceEnd :: r => run b.closeNode.behind r
  | .mappingEnd :: r => run b.closeNode.behind r
  | .documentStart :: _ => (b.breakOff, none)
  | .streamEnd :: _ => (b.breakOff, none)
  | [] => (b.breakOff, none)

/-- The anchored nodes by the numbers of their anchors; the latest node of a number counts. -/
def anchored (b : Builder) : List (Nat × Node) :=
  b.places.filterMap fun (number, place) => (b.nodes.lookup place).map fun n => (number, n)

end Builder

/-- The first document of events. A text without a document stands for an empty scalar. -/
def Document.ofEvents : List Event → Document
  | .streamEnd :: _ => ⟨.scalar none "" true, [], 1, true⟩
  | .documentStart :: r =>
    let (b, rest) := Builder.start.run r
    let sound := match rest with
      | some (.streamEnd :: _) => true
      | _ => false
    ⟨b.root.getD .broken, b.anchored, b.place, sound⟩
  | _ => ⟨.broken, [], 0, false⟩

/-- The first document of a text. -/
def Document.ofText (s : String) : Document :=
  .ofEvents (events s.toList)

end Rollout.Yaml
