import PolicyTrial.Yaml.Token

/-!
# Events

Tokens form documents, and a document is told as events: scalars, and the starts and ends of
sequences and mappings.

* `Yaml.Event`: the events of a stream.
* `EventStream.next`: the next event.
* `Yaml.events`: all events of a text up to the first fault.
-/

namespace PolicyTrial.Yaml

/-- The properties of a node: an anchor, and a tag in full. -/
structure Properties where
  anchor : Option (List Char)
  tag : Option Bytes
  deriving Repr, DecidableEq

/-- The events of a stream. -/
inductive Event
  | streamStart
  | streamEnd
  | documentStart
  | documentEnd
  | alias (name : List Char)
  | scalar (p : Properties) (text : List Char) (style : ScalarStyle)
  | sequenceStart (p : Properties)
  | sequenceEnd
  | mappingStart (p : Properties)
  | mappingEnd
  deriving Repr, DecidableEq

/-- What is expected next. -/
inductive Expecting
  | streamStart
  | implicitDocument
  | document
  | documentContent
  | documentEnd
  | blockNode
  | blockSequence (first : Bool)
  | indentlessSequence
  | blockKey (first : Bool)
  | blockValue
  | flowSequence (first : Bool)
  | pairKey
  | pairValue
  | pairEnd
  | flowKey (first : Bool)
  | flowValue
  | emptyFlowValue
  | nothing
  deriving Repr, DecidableEq

/-- A stream of events: the tokens, what is expected next, and what is expected after that. -/
structure EventStream where
  tokens : TokenStream
  expecting : Expecting
  later : List Expecting
  /-- The handles of tags with what they stand for. -/
  handles : List (List Char × Bytes)
  deriving Repr

/-- A step: an event and the stream behind it. -/
abbrev EventStep := Except Fault (Event × EventStream)

/-- The handles that need no declaration. -/
def defaultHandles : List (List Char × Bytes) :=
  [(['!'], localMark), (['!', '!'], Bytes.ofString "tag:yaml.org,2002:")]

/-- No properties. -/
def Properties.none : Properties := ⟨.none, .none⟩

namespace EventStream

/-- The stream of a text. -/
def ofText (s : List Char) : EventStream :=
  ⟨.ofText s, .streamStart, [], defaultHandles⟩

/-- The next token, with the stream that still holds it. -/
def peek (e : EventStream) : Except Fault (Token × EventStream) := do
  let (token, tokens) ← e.tokens.peek
  return (token, { e with tokens })

/-- The stream behind the next token. -/
def drop (e : EventStream) : EventStream := { e with tokens := e.tokens.drop }

/-- The stream in which something else is expected. -/
def expect (e : EventStream) (x : Expecting) : EventStream := { e with expecting := x }

/-- The stream in which something is expected after what comes first. -/
def expectLater (e : EventStream) (x : Expecting) : EventStream := { e with later := x :: e.later }

/-- The stream in which what was put off is expected. -/
def resume (e : EventStream) : EventStream :=
  match e.later with
  | [] => { e with expecting := .nothing }
  | x :: rest => { e with expecting := x, later := rest }

/-- An empty scalar where a node is missing. -/
def emptyScalar (e : EventStream) : EventStep := .ok (.scalar .none [] .plain, e)

/-- The tag that a handle and a suffix spell. -/
def resolveTag (e : EventStream) (handle : List Char) (suffix : Bytes) : Except Fault Bytes :=
  if handle.isEmpty then .ok suffix
  else
    match e.handles.lookup handle with
    | some lead => .ok (lead ++ suffix)
    | none => .error .badTag

/-- The anchor and the tag in front of a node, in any order. -/
def readProperties (e : EventStream) : Except Fault (Properties × EventStream) := do
  match ← e.peek with
  | (.anchor name, e) =>
    match ← e.drop.peek with
    | (.tag handle suffix, e) =>
      let tag ← e.resolveTag handle suffix
      return (⟨some name, some tag⟩, e.drop)
    | (_, e) => return (⟨some name, none⟩, e)
  | (.tag handle suffix, e) =>
    -- The token behind the tag is looked at first: a fault there comes before an unknown handle.
    match ← e.drop.peek with
    | (.anchor name, e') =>
      let tag ← e.resolveTag handle suffix
      return (⟨some name, some tag⟩, e'.drop)
    | (_, e') =>
      let tag ← e.resolveTag handle suffix
      return (⟨none, some tag⟩, e')
  | (_, e) => return (.none, e)

/-- A node. Some nodes can only stand in a block, and a sequence without indentation only as a
value. -/
def node (block indentless : Bool) (e : EventStream) : EventStep := do
  match ← e.peek with
  | (.alias name, e) => return (.alias name, e.drop.resume)
  | (_, e) =>
    let (p, e) ← e.readProperties
    let (token, e) ← e.peek
    match token with
    -- The dash of a sequence that is no further right than its key.
    | .blockEntry =>
      if indentless then return (.sequenceStart p, e.expect .indentlessSequence)
      else if p = .none then .error .badStructure
      else return (.scalar p [] .plain, e.resume)
    | .scalar text style => return (.scalar p text style, e.drop.resume)
    | .flowSequenceStart => return (.sequenceStart p, e.expect (.flowSequence true))
    | .flowMappingStart => return (.mappingStart p, e.expect (.flowKey true))
    | other =>
      if block && other = .blockSequenceStart then
        return (.sequenceStart p, e.expect (.blockSequence true))
      else if block && other = .blockMappingStart then
        return (.mappingStart p, e.expect (.blockKey true))
      else if p = .none then .error .badStructure
      else return (.scalar p [] .plain, e.resume)

/-- A node behind which something is expected. -/
def nodeThen (after : Expecting) (block indentless : Bool) (e : EventStream) : EventStep :=
  (e.expectLater after).node block indentless

/-- The directives in front of a document. -/
def readDirectives : Nat → Bool → List (List Char × Bytes) → EventStream →
    Except Fault (List (List Char × Bytes) × EventStream)
  | 0, _, _, _ => .error .badDirective
  | fuel + 1, versioned, handles, e => do
    match ← e.peek with
    | (.directive (.version major minor), e) =>
      if versioned ∨ major ≠ 1 ∨ (minor ≠ 1 ∧ minor ≠ 2) then .error .badDirective
      else readDirectives fuel true handles e.drop
    | (.directive (.tag handle lead), e) =>
      if (handles.lookup handle).isSome then .error .badDirective
      else readDirectives fuel versioned (handles ++ [(handle, lead)]) e.drop
    | (_, e) => return (handles, e)

/-- The stream behind the markers that end documents. -/
def dropDocumentEnds : Nat → EventStream → Except Fault EventStream
  | 0, e => .ok e
  | fuel + 1, e => do
    match ← e.peek with
    | (.documentEnd, e) => dropDocumentEnds fuel e.drop
    | (_, e) => return e

/-- The number of rounds that no loop over the tokens of a text exceeds. -/
def rounds (e : EventStream) : Nat := e.tokens.source.size + e.tokens.queue.length + 2

/-- The start of a document with its directives, or the end of the stream. -/
def explicitDocument (e : EventStream) : EventStep := do
  match ← e.peek with
  | (.streamEnd, e) => return (.streamEnd, e.drop.expect .nothing)
  | (_, e) =>
    let (handles, e) ← readDirectives e.rounds false [] e
    match ← e.peek with
    | (.documentStart, e) =>
      return (.documentStart,
        ({ e with handles := handles ++ defaultHandles }.expectLater .documentEnd).drop.expect
          .documentContent)
    | _ => .error .badStructure

/-- The next event. -/
def next (e : EventStream) : EventStep := do
  match e.expecting with
  | .streamStart =>
    let (_, e) ← e.peek
    return (.streamStart, e.drop.expect .implicitDocument)
  | .implicitDocument =>
    let (token, e) ← e.peek
    match token with
    | .directive _ | .documentStart | .streamEnd => e.explicitDocument
    | _ =>
      return (.documentStart,
        ({ e with handles := defaultHandles }.expectLater .documentEnd).expect .blockNode)
  | .document =>
    let e ← dropDocumentEnds e.rounds e
    e.explicitDocument
  | .documentContent =>
    let (token, e) ← e.peek
    match token with
    | .directive _ | .documentStart | .documentEnd | .streamEnd => e.resume.emptyScalar
    | _ => e.node true false
  | .documentEnd =>
    let (token, e) ← e.peek
    let e := if token = .documentEnd then e.drop else e
    return (.documentEnd, e.expect .document)
  | .blockNode => e.node true false
  | .blockSequence first =>
    let e ← if first then do let (_, e) ← e.peek; pure e.drop else pure e
    match ← e.peek with
    | (.blockEntry, e) =>
      let (token, e) ← e.drop.peek
      if token = .blockEntry ∨ token = .blockEnd then (e.expect (.blockSequence false)).emptyScalar
      else e.nodeThen (.blockSequence false) true false
    | (.blockEnd, e) => return (.sequenceEnd, e.drop.resume)
    | _ => .error .badStructure
  | .indentlessSequence =>
    match ← e.peek with
    | (.blockEntry, e) =>
      let (token, e) ← e.drop.peek
      if token = .blockEntry ∨ token = .key ∨ token = .value ∨ token = .blockEnd then
        (e.expect .indentlessSequence).emptyScalar
      else e.nodeThen .indentlessSequence true false
    | (_, e) => return (.sequenceEnd, e.resume)
  | .blockKey first =>
    let e ← if first then do let (_, e) ← e.peek; pure e.drop else pure e
    match ← e.peek with
    | (.key, e) =>
      let (token, e) ← e.drop.peek
      if token = .key ∨ token = .value ∨ token = .blockEnd then (e.expect .blockValue).emptyScalar
      else e.nodeThen .blockValue true true
    | (.blockEnd, e) => return (.mappingEnd, e.drop.resume)
    | _ => .error .badStructure
  | .blockValue =>
    match ← e.peek with
    | (.value, e) =>
      let (token, e) ← e.drop.peek
      if token = .key ∨ token = .value ∨ token = .blockEnd then
        (e.expect (.blockKey false)).emptyScalar
      else e.nodeThen (.blockKey false) true true
    | (_, e) => (e.expect (.blockKey false)).emptyScalar
  | .flowSequence first =>
    let e ← if first then do let (_, e) ← e.peek; pure e.drop else pure e
    let (token, e) ← e.peek
    -- A comma may stand before the closing bracket.
    if token = .flowSequenceEnd then return (.sequenceEnd, e.drop.resume)
    else if !first && token ≠ .flowEntry then .error .badStructure
    else
      let (token, e) ← if first then pure (token, e) else e.drop.peek
      -- A key in a sequence is a mapping with one entry.
      if token = .key then return (.mappingStart .none, e.drop.expect .pairKey)
      else if token = .flowSequenceEnd then return (.sequenceEnd, e.drop.resume)
      else e.nodeThen (.flowSequence false) false false
  | .pairKey =>
    let (token, e) ← e.peek
    if token = .value ∨ token = .flowEntry ∨ token = .flowSequenceEnd then
      (e.drop.expect .pairValue).emptyScalar
    else e.nodeThen .pairValue false false
  | .pairValue =>
    match ← e.peek with
    | (.value, e) =>
      let (token, e) ← e.drop.peek
      if token = .flowEntry ∨ token = .flowSequenceEnd then (e.expect .pairEnd).emptyScalar
      else e.nodeThen .pairEnd false false
    | (_, e) => (e.expect .pairEnd).emptyScalar
  | .pairEnd =>
    let (_, e) ← e.peek
    return (.mappingEnd, e.expect (.flowSequence false))
  | .flowKey first =>
    let e ← if first then do let (_, e) ← e.peek; pure e.drop else pure e
    let (token, e) ← e.peek
    if token = .flowMappingEnd then return (.mappingEnd, e.drop.resume)
    else if !first && token ≠ .flowEntry then .error .badStructure
    else
      let (token, e) ← if first then pure (token, e) else e.drop.peek
      if token = .key then
        let (token, e) ← e.drop.peek
        if token = .value ∨ token = .flowEntry ∨ token = .flowMappingEnd then
          (e.expect .flowValue).emptyScalar
        else e.nodeThen .flowValue false false
      else if token = .flowMappingEnd then return (.mappingEnd, e.drop.resume)
      else e.nodeThen .emptyFlowValue false false
  | .flowValue =>
    match ← e.peek with
    | (.value, e) =>
      let (token, e) ← e.drop.peek
      if token = .flowEntry ∨ token = .flowMappingEnd then (e.expect (.flowKey false)).emptyScalar
      else e.nodeThen (.flowKey false) false false
    | (_, e) => (e.expect (.flowKey false)).emptyScalar
  | .emptyFlowValue =>
    let (_, e) ← e.peek
    (e.expect (.flowKey false)).emptyScalar
  | .nothing => return (.streamEnd, e)

/-- The events from a place of the stream on, at most `fuel` of them, and the fault that ends
them. -/
def collect : Nat → EventStream → List Event × Option Fault
  | 0, _ => ([], some .badStructure)
  | fuel + 1, e =>
    match e.next with
    | .error f => ([], some f)
    | .ok (.streamEnd, _) => ([.streamEnd], none)
    | .ok (event, e) =>
      let (events, fault) := collect fuel e
      (event :: events, fault)

end EventStream

/-- All events of a text, and the fault that ends them if it is no stream. -/
def events (s : List Char) : List Event × Option Fault :=
  (EventStream.ofText s).collect (8 * s.length + 64)

end PolicyTrial.Yaml
