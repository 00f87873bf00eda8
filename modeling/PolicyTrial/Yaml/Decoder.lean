import PolicyTrial.Number.Power
import PolicyTrial.Yaml.Document
import PolicyTrial.Yaml.Plain

/-!
# Reading values out of a document

A decoder reads a value at a place of a document and goes on behind it. What is wrong first is what
is reported, be it the shape of a value or a fault of the text behind it.

* `Yaml.Decoder`: a decoder for values of a type.
* `Decoder.text`, `Decoder.optional`, `Decoder.list`, `Decoder.record`: decoders by shape.
* `Decoder.json`: the decoder for any value.
* `Yaml.decode`: the value of a whole text.
-/

namespace PolicyTrial.Yaml

/-- Why a text holds no value of a type: a fault or a wrong shape, or a reason of the type's own. -/
inductive DecodeError
  | unreadable
  | refused (reason : String)
  deriving Repr, DecidableEq

/-- The error in words. The wording of faults and wrong shapes is left open. -/
def DecodeError.message : DecodeError → String
  | .unreadable => "<yaml>"
  | .refused reason => "<yaml> " ++ reason

/-- A place in a document: the nodes from here on, the aliases followed so far, and the levels of
nesting that are left. -/
structure Place where
  nodes : List Node
  jumps : Nat
  depth : Nat
  deriving Repr

/-- A decoder: it reads a value at a place of a document and goes on behind it. -/
abbrev Decoder (α : Type) := Document → Place → Except DecodeError (α × Place)

/-- The level of nesting up to which documents are read. -/
def nestingLimit : Nat := 128

/-- The number of aliases that may be followed for each node of a document. -/
def jumpLimit : Nat := 100

namespace Decoder

/-- A decoder that refuses. -/
def fail {α : Type} (e : DecodeError) : Decoder α := fun _ _ => .error e

/-- A value is made of another one, or refused. -/
def refine {α β : Type} (d : Decoder α) (f : α → Except DecodeError β) : Decoder β := fun doc p =>
  match d doc p with
  | .error e => .error e
  | .ok (a, p) => (f a).map (·, p)

/-- A value is made of another one. -/
def map {α β : Type} (f : α → β) (d : Decoder α) : Decoder β := d.refine fun a => .ok (f a)

/-- The value at an alias is the one at its anchor. -/
def following {α : Type} (d : Decoder α) : Decoder α := fun doc p =>
  match p.nodes with
  | .alias id :: rest =>
    if p.jumps + 1 > doc.nodes.length * jumpLimit then .error .unreadable
    else
      match doc.anchors.lookup id with
      | none => .error .unreadable
      | some nodes =>
        match d doc { p with nodes, jumps := p.jumps + 1 } with
        | .error e => .error e
        | .ok (a, q) => .ok (a, { p with nodes := rest, jumps := q.jumps })
  | _ => d doc p

/-- A level of nesting is entered, read and left. -/
def nested {α : Type} (d : Decoder α) : Decoder α := fun doc p =>
  if p.depth = 0 then .error .unreadable
  else (d doc { p with depth := p.depth - 1 }).map fun (a, q) => (a, { q with depth := p.depth })

/-- The place behind the next node. -/
def Place.behind (p : Place) : Place := { p with nodes := p.nodes.drop 1 }

/-- The text of a scalar, whatever its tag and style. -/
def text : Decoder String := following fun _ p =>
  match p.nodes with
  | .scalar _ s _ :: _ => .ok (String.ofList s, Place.behind p)
  | _ => .error .unreadable

/-- The tag of a scalar that is meant to be null. -/
def nullTag : Bytes := Bytes.ofString "tag:yaml.org,2002:null"

/-- The tag of an integer. -/
def intTag : Bytes := Bytes.ofString "tag:yaml.org,2002:int"

/-- The tag of a truth value. -/
def boolTag : Bytes := Bytes.ofString "tag:yaml.org,2002:bool"

/-- The tag of a double. -/
def floatTag : Bytes := Bytes.ofString "tag:yaml.org,2002:float"

/-- A value that may be missing: an empty plain scalar and the spellings of null stand for
nothing. -/
def optional {α : Type} (d : Decoder α) : Decoder (Option α) := following fun doc p =>
  let absent : Except DecodeError (Option α × Place) := .ok (none, Place.behind p)
  let present : Except DecodeError (Option α × Place) := d.map some doc p
  match p.nodes with
  | .scalar tag s style :: _ =>
    if style ≠ .plain then present
    else
      match tag with
      | none => if s.isEmpty || isNull s then absent else present
      | some t =>
        if t ≠ nullTag then present
        else if isNull s then absent
        else .error .unreadable
  | .sequenceStart _ :: _ | .mappingStart _ :: _ => present
  | .void :: _ => absent
  | _ => .error .unreadable

/-- Whether a node stands for an empty collection. -/
def isEmptyNode : Node → Bool
  | .void => true
  | .scalar _ s style => s.isEmpty && style = .plain
  | _ => false

/-- The items of a sequence up to its end, behind the reversed `out`. Every item reads a node. -/
def items {α : Type} (d : Decoder α) : Nat → List α → Decoder (List α)
  | 0, _ => fail .unreadable
  | fuel + 1, out => fun doc p =>
    match p.nodes with
    | .sequenceEnd :: _ => .ok (out.reverse, Place.behind p)
    | [] => .error .unreadable
    | _ =>
      match d doc p with
      | .error e => .error e
      | .ok (a, p) => items d fuel (a :: out) doc p

/-- The items of a sequence; an empty scalar is an empty sequence. -/
def list {α : Type} (d : Decoder α) : Decoder (List α) := following fun doc p =>
  match p.nodes with
  | .sequenceStart _ :: _ => nested (items d (p.nodes.length + 1) []) doc (Place.behind p)
  | n :: _ => if isEmptyNode n then .ok ([], Place.behind p) else .error .unreadable
  | [] => .error .unreadable

/-- A value of any shape is passed over; `entered` counts the collections that are open. -/
def passOver : Nat → Nat → Decoder Unit
  | 0, _ => fail .unreadable
  | fuel + 1, entered => fun doc p =>
    let go (entered : Nat) : Except DecodeError (Unit × Place) :=
      if entered = 0 then .ok ((), Place.behind p) else passOver fuel entered doc (Place.behind p)
    match p.nodes with
    | [] => .error .unreadable
    | .sequenceStart _ :: _ | .mappingStart _ :: _ => go (entered + 1)
    | .sequenceEnd :: _ | .mappingEnd :: _ => go (entered - 1)
    | _ => go entered

/-- A value of any shape, which does not matter. -/
def ignored : Decoder Unit := fun doc p => passOver (p.nodes.length + 1) 0 doc p

/-- The fields of a mapping up to its end. Each key takes the record so far to the decoder of its
value, which gives the record with the field. -/
def fields {ρ : Type} (field : String → ρ → Decoder ρ) : Nat → ρ → Decoder ρ
  | 0, _ => fail .unreadable
  | fuel + 1, r => fun doc p =>
    match p.nodes with
    | .mappingEnd :: _ => .ok (r, Place.behind p)
    | [] => .error .unreadable
    | _ =>
      match text doc p with
      | .error e => .error e
      | .ok (key, p) =>
        match field key r doc p with
        | .error e => .error e
        | .ok (r, p) => fields field fuel r doc p

/-- A mapping with known fields, as a record that starts from `r`; an empty scalar is an empty
mapping. -/
def record {ρ : Type} (field : String → ρ → Decoder ρ) (r : ρ) : Decoder ρ := following fun doc p =>
  match p.nodes with
  | .mappingStart _ :: _ => nested (fields field (p.nodes.length + 1) r) doc (Place.behind p)
  | n :: _ => if isEmptyNode n then .ok (r, Place.behind p) else .error .unreadable
  | [] => .error .unreadable

/-- A field that may come once: the record has nothing there yet, and gets the value. -/
def once {ρ α : Type} (old : Option α) (d : Decoder α) (put : α → ρ) : Decoder ρ :=
  match old with
  | some _ => fail .unreadable
  | none => d.map put

/-- A natural number below a limit, written as a plain scalar, or as a literal one with the tag of
an integer. -/
def natural (limit : Nat) : Decoder Nat := following fun _ p =>
  match p.nodes with
  | .scalar tag s style :: _ =>
    if style = .plain ∨ (style = .literal ∧ tag = some intTag) then
      match natural? (twoTo 64) s with
      | some n => if n < limit then .ok (n, Place.behind p) else .error .unreadable
      | none => .error .unreadable
    else .error .unreadable
  | _ => .error .unreadable

/-- Whether a tag starts with the mark of the document's own tags. -/
def startsLocal (tag : Option Bytes) : Bool := (tag.bind List.head?) = some 0x21

/-- The name that a tag of the document's own gives, if that is a text. A mark alone is a name. -/
def localName? (tag : Option Bytes) : Option (List Char) :=
  match tag with
  | some (mark :: name) =>
    if mark = 0x21 then Text.Utf8.decode? (if name.isEmpty then [mark] else name) else none
  | _ => none

/-- Whether a tag names a type of the document's own, which no type here is. -/
def isLocalTag (tag : Option Bytes) : Bool := (localName? tag).isSome

/-- The value of a scalar. -/
def scalarJson (tag : Option Bytes) (s : List Char) (style : ScalarStyle) :
    Except DecodeError Json :=
  let required (v : Option Json) : Except DecodeError Json :=
    match v with
    | some j => .ok j
    | none => .error .unreadable
  let untagged : Except DecodeError Json :=
    match if style = .plain then plainValue? s else none with
    | some v => required v
    | none => .ok (.string (String.ofList s))
  match tag with
  | none => untagged
  | some t =>
    if isLocalTag tag then .error .unreadable
    else if t = boolTag then required ((truth? s).map .bool)
    else if t = intTag then required (integer? s).join
    else if t = floatTag then required (real? s)
    else if t = nullTag then if isNull s then .ok .null else .error .unreadable
    -- A tag of the document's own whose name is no text is as good as none.
    else if startsLocal tag then untagged
    else .ok (.string (String.ofList s))

/-- A value of any shape, as JSON. Keys are texts as they are written, and the last value of a key
wins. The first argument bounds the nesting, which the place bounds too. -/
def jsonWithin : Nat → Decoder Json
  | 0 => following fun _ p =>
    match p.nodes with
    | .scalar tag s style :: _ => (scalarJson tag s style).map (·, Place.behind p)
    | .void :: _ => .ok (.null, Place.behind p)
    | _ => .error .unreadable
  | levels + 1 => following fun doc p =>
    match p.nodes with
    | .scalar tag s style :: _ => (scalarJson tag s style).map (·, Place.behind p)
    | .void :: _ => .ok (.null, Place.behind p)
    | .sequenceStart tag :: _ =>
      if isLocalTag tag then .error .unreadable
      else
        nested ((items (jsonWithin levels) (p.nodes.length + 1) []).map .array) doc (Place.behind p)
    | .mappingStart tag :: _ =>
      if isLocalTag tag then .error .unreadable
      else
        let field (key : String) (r : List (String × Json)) : Decoder (List (String × Json)) :=
          (jsonWithin levels).map fun v => Json.putField key v r
        nested ((fields field (p.nodes.length + 1) []).map .object) doc (Place.behind p)
    | _ => .error .unreadable

/-- A value of any shape, as JSON. -/
def json : Decoder Json := jsonWithin (nestingLimit + 1)

/-- One of some names, written as a text or as a tag of its own on a null. -/
def name {α : Type} (names : List (String × α)) : Decoder α := following fun _ p =>
  match p.nodes with
  | .scalar tag s style :: _ =>
    let spelled (w : List Char) : Except DecodeError (α × Place) :=
      match names.lookup (String.ofList w) with
      | some a => .ok (a, Place.behind p)
      | none => .error .unreadable
    match localName? tag with
    | some w =>
      if style = .plain && (s.isEmpty || isNull s) then spelled w else .error .unreadable
    | none => spelled s
  | _ => .error .unreadable

/-- One of some names, written as a text that means nothing else. -/
def plainName {α : Type} (names : List (String × α)) : Decoder α := following fun _ p =>
  match p.nodes with
  | .scalar tag s style :: _ =>
    match scalarJson tag s style with
    | .ok (.string w) =>
      match names.lookup w with
      | some a => .ok (a, Place.behind p)
      | none => .error .unreadable
    | _ => .error .unreadable
  | _ => .error .unreadable

/-- One of some cases, written as a mapping with the name of the case as its only key. -/
def oneOf {α : Type} (cases : String → Option (Decoder α)) : Decoder α := following fun doc p =>
  match p.nodes with
  | .mappingStart tag :: _ =>
    if isLocalTag tag then .error .unreadable
    else
      let only : Decoder α := fun doc p =>
        match p.nodes with
        | .mappingEnd :: _ => .error .unreadable
        | _ =>
          match text doc p with
          | .error e => .error e
          | .ok (key, p) =>
            match cases key with
            | none => .error .unreadable
            | some d =>
              match d doc p with
              | .error e => .error e
              | .ok (a, p) =>
                match p.nodes with
                | .mappingEnd :: _ => .ok (a, Place.behind p)
                | _ => .error .unreadable
      nested only doc (Place.behind p)
  | _ => .error .unreadable

end Decoder

/-- The value of a whole text, or what is wrong first. -/
def decode {α : Type} (d : Decoder α) (s : String) : Except DecodeError α :=
  let doc := Document.ofText s.toList
  match d doc ⟨doc.nodes, 0, nestingLimit⟩ with
  | .error e => .error e
  | .ok (a, _) => if doc.fault.isSome then .error .unreadable else .ok a

end PolicyTrial.Yaml
