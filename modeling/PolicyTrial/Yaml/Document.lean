import PolicyTrial.Yaml.Event

/-!
# Documents

* `Yaml.Node`: an event of a document, with aliases resolved to numbers.
* `Yaml.Document`: the events of a document, where its anchors stand, and the fault that ends it.
* `Document.ofText`: the only document of a text.
-/

namespace PolicyTrial.Yaml

/-- An event of a document. -/
inductive Node
  | alias (id : Nat)
  | scalar (tag : Option Bytes) (text : List Char) (style : ScalarStyle)
  | sequenceStart (tag : Option Bytes)
  | sequenceEnd
  | mappingStart (tag : Option Bytes)
  | mappingEnd
  /-- The document is empty. -/
  | void
  deriving Repr, DecidableEq

/-- A document as far as it could be read. The number of an anchor is the number of different names
that were anchors before it, so an anchor that is set anew can share its number with a later one;
the last of them counts. -/
structure Document where
  nodes : List Node
  /-- The nodes from an anchor on. -/
  anchors : List (Nat × List Node)
  /-- The fault that ends the document, or the one behind it. -/
  fault : Option Fault
  deriving Repr

/-- What is known while a document is told: the numbers of the anchors so far, and the anchors with
their positions. The nodes are reversed. -/
structure Document.Draft where
  nodes : List Node
  count : Nat
  names : List (List Char × Nat)
  positions : List (Nat × Nat)
  deriving Repr

namespace Document.Draft

/-- A node without an anchor enters the document. -/
def push (d : Draft) (n : Node) : Draft := { d with nodes := n :: d.nodes, count := d.count + 1 }

/-- An anchor is set at this position. -/
def anchor (d : Draft) (name : List Char) : Draft :=
  let id := d.names.length
  { d with
    names := (name, id) :: d.names.filter (·.1 ≠ name)
    positions := (id, d.count) :: d.positions }

/-- A node with its properties enters the document. -/
def pushWith (d : Draft) (p : Properties) (n : Node) : Draft :=
  match p.anchor with
  | none => d.push n
  | some name => (d.anchor name).push n

/-- The document that has been told, with the fault that ended it. -/
def finish (d : Draft) (fault : Option Fault) : Document :=
  let nodes := d.nodes.reverse
  { nodes, fault, anchors := d.positions.map fun (id, position) => (id, nodes.drop position) }

end Document.Draft

namespace Document

/-- The document told by some events, and the events behind it. -/
def gather (fault : Option Fault) : Draft → List Event → Document × List Event
  | d, [] => (d.finish fault, [])
  | d, e :: rest =>
    match e with
    | .streamStart | .documentStart => gather fault d rest
    | .documentEnd => (d.finish none, rest)
    | .streamEnd => ((if d.nodes.isEmpty then d.push .void else d).finish none, rest)
    | .alias name =>
      match d.names.lookup name with
      | some id => gather fault (d.push (.alias id)) rest
      | none => (d.finish (some .badAnchor), [])
    | .scalar p text style => gather fault (d.pushWith p (.scalar p.tag text style)) rest
    | .sequenceStart p => gather fault (d.pushWith p (.sequenceStart p.tag)) rest
    | .sequenceEnd => gather fault (d.push .sequenceEnd) rest
    | .mappingStart p => gather fault (d.pushWith p (.mappingStart p.tag)) rest
    | .mappingEnd => gather fault (d.push .mappingEnd) rest

/-- The only document of a text: a further document, or a fault behind the first one, is a fault. -/
def ofText (s : List Char) : Document :=
  let (events, fault) := events s
  let (document, rest) := gather fault ⟨[], 0, [], []⟩ events
  match document.fault with
  | some _ => document
  | none =>
    if rest = [] ∨ rest = [.streamEnd] then
      if rest = [] ∧ fault.isSome then { document with fault } else document
    else { document with fault := some .manyDocuments }

end Document

end PolicyTrial.Yaml
