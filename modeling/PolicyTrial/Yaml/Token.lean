import PolicyTrial.Yaml.Property
import PolicyTrial.Yaml.Scalar

/-!
# Tokens

Whether a scalar is a key shows only at the colon behind it, so tokens wait in a queue while one of
them may still turn out to be a key. Indentation becomes tokens of its own.

* `Yaml.Token`: the pieces of a stream.
* `TokenStream.peek`: the next token.
* `TokenStream.drop`: the stream behind the next token.
-/

namespace PolicyTrial.Yaml

/-- The pieces of a stream. -/
inductive Token
  | streamStart
  | streamEnd
  | directive (d : Directive)
  | documentStart
  | documentEnd
  | blockSequenceStart
  | blockMappingStart
  | blockEnd
  | flowSequenceStart
  | flowSequenceEnd
  | flowMappingStart
  | flowMappingEnd
  | blockEntry
  | flowEntry
  | key
  | value
  | alias (name : List Char)
  | anchor (name : List Char)
  | tag (handle : List Char) (suffix : Bytes)
  | scalar (text : List Char) (style : ScalarStyle)
  deriving Repr, DecidableEq

/-- A place where a key may have started. -/
structure PossibleKey where
  possible : Bool
  /-- Whether nothing but a key may stand there. -/
  required : Bool
  /-- The number of the token that would be the key. -/
  number : Nat
  place : Source
  deriving Repr

/-- A stream of tokens: what has been read and not yet taken, and what is needed to read on. -/
structure TokenStream where
  source : Source
  started : Bool
  queue : List Token
  /-- The number of tokens taken. -/
  taken : Nat
  /-- The column of the innermost block, and of those around it. -/
  indent : Int
  outer : List Int
  /-- The possible key of the innermost level of brackets, and of those around it. -/
  key : PossibleKey
  outerKeys : List PossibleKey
  keyAllowed : Bool
  deriving Repr

namespace TokenStream

/-- The stream of a text. -/
def ofText (s : List Char) : TokenStream :=
  let source := Source.ofText s
  { source, started := false, queue := [], taken := 0, indent := -1, outer := []
    key := ⟨false, false, 0, source⟩, outerKeys := [], keyAllowed := false }

/-- Whether the place is inside brackets. -/
def inFlow (t : TokenStream) : Bool := !t.outerKeys.isEmpty

/-- A token enters the queue. -/
def push (t : TokenStream) (token : Token) : TokenStream := { t with queue := t.queue ++ [token] }

/-- A token enters the queue in front of the token with a number. -/
def insertAt (t : TokenStream) (number : Nat) (token : Token) : TokenStream :=
  let n := number - t.taken
  { t with queue := t.queue.take n ++ token :: t.queue.drop n }

/-- A place where a key may have started no longer counts once its line has ended or it has become
longer than 1024 octets; it is a fault if nothing but a key may stand there. -/
def stale (place : Source) (k : PossibleKey) : Except Fault PossibleKey :=
  if k.possible && (k.place.line < place.line || k.place.index + 1024 < place.index) then
    if k.required then .error .missingColon else .ok { k with possible := false }
  else .ok k

/-- The possible keys that still count. -/
def staleKeys (t : TokenStream) : Except Fault TokenStream := do
  let outerKeys ← (t.outerKeys.reverse.mapM (stale t.source)).map List.reverse
  let key ← stale t.source t.key
  return { t with key, outerKeys }

/-- The possible key of this level does not count any more. -/
def removeKey (t : TokenStream) : Except Fault TokenStream :=
  if t.key.possible && t.key.required then .error .missingColon
  else .ok { t with key := { t.key with possible := false } }

/-- A key may start here, if it may anywhere. -/
def saveKey (t : TokenStream) : Except Fault TokenStream :=
  if t.keyAllowed then do
    let t ← t.removeKey
    return { t with key :=
      { possible := true
        required := !t.inFlow && decide (t.indent = (t.source.column : Int))
        number := t.taken + t.queue.length
        place := t.source } }
  else .ok t

/-- A block that starts at a column further right; its first token has a number if it has been
read. -/
def rollIndent (t : TokenStream) (column : Nat) (number : Option Nat) (token : Token) :
    TokenStream :=
  if !t.inFlow && t.indent < column then
    let t := { t with indent := column, outer := t.indent :: t.outer }
    match number with
    | none => t.push token
    | some n => t.insertAt n token
  else t

/-- The blocks that end in front of a column. -/
def unrollIndent (t : TokenStream) (column : Int) : TokenStream :=
  if t.inFlow then t else go t.outer t
where
  /-- Ends the innermost block, then those around it. -/
  go : List Int → TokenStream → TokenStream
    | [], t => t
    | i :: rest, t =>
      if t.indent > column then
        go rest { t with queue := t.queue ++ [.blockEnd], indent := i, outer := rest }
      else t

/-- The place of the next token: past blanks, comments and line breaks. In a block a new line may
start a key. -/
def skipToToken : Nat → TokenStream → TokenStream
  | 0, t => t
  | fuel + 1, t =>
    -- A byte order mark may start a line. It takes a column.
    let isMarked := t.source.column == 0 && t.source.peek? == some '\uFEFF'
    let s := if isMarked then t.source.skip 1 else t.source
    -- Where a block may start a key, a tab is no blank: it could be taken for indentation.
    let tabs := t.inFlow || !t.keyAllowed
    let s := (s.skipWhile fun c => c = ' ' || (tabs && c = '\t')).skipComment
    if !s.rest.isEmpty && breakOrEnd s.rest then
      skipToToken fuel { t with
        source := s.skipBreak, keyAllowed := t.keyAllowed || !t.inFlow }
    else { t with source := s }

/-- A token of some characters that end no line. -/
def mark (t : TokenStream) (length : Nat) (token : Token) : TokenStream :=
  { t.push token with source := t.source.skip length }

/-- The place at the start of a line: this one, or the next. -/
def lineStart (s : Source) : Source :=
  if s.column = 0 then s else { s with line := s.line + 1, column := 0 }

/-- The end of the stream, which is the start of a line. -/
def fetchEnd (t : TokenStream) : Except Fault TokenStream := do
  let t := { t with source := lineStart t.source }.unrollIndent (-1)
  let t ← t.removeKey
  return { t.push .streamEnd with keyAllowed := false }

/-- A directive. -/
def fetchDirective (t : TokenStream) : Except Fault TokenStream := do
  let t ← (t.unrollIndent (-1)).removeKey
  let (d, s) ← readDirective t.source
  return { t.push (.directive d) with keyAllowed := false, source := s }

/-- The marker of a document's start or end. -/
def fetchMarker (t : TokenStream) (token : Token) : Except Fault TokenStream := do
  let t ← (t.unrollIndent (-1)).removeKey
  return { t.mark 3 token with keyAllowed := false }

/-- An opening bracket. -/
def fetchOpen (t : TokenStream) (token : Token) : Except Fault TokenStream := do
  let t ← t.saveKey
  return { t.mark 1 token with
    keyAllowed := true, outerKeys := t.key :: t.outerKeys, key := ⟨false, false, 0, t.source⟩ }

/-- A closing bracket. -/
def fetchClose (t : TokenStream) (token : Token) : Except Fault TokenStream := do
  let t ← t.removeKey
  let t := match t.outerKeys with
    | [] => t
    | k :: rest => { t with key := k, outerKeys := rest }
  return { t.mark 1 token with keyAllowed := false }

/-- A comma. -/
def fetchFlowEntry (t : TokenStream) : Except Fault TokenStream := do
  let t ← t.removeKey
  return { t.mark 1 .flowEntry with keyAllowed := true }

/-- A dash. -/
def fetchBlockEntry (t : TokenStream) : Except Fault TokenStream := do
  if !t.inFlow && !t.keyAllowed then .error .misplacedIndicator
  else
    let t ← (t.rollIndent t.source.column none .blockSequenceStart).removeKey
    return { t.mark 1 .blockEntry with keyAllowed := true }

/-- A question mark. -/
def fetchKey (t : TokenStream) : Except Fault TokenStream := do
  if !t.inFlow && !t.keyAllowed then .error .misplacedIndicator
  else
    let t ← (t.rollIndent t.source.column none .blockMappingStart).removeKey
    return { t.mark 1 .key with keyAllowed := !t.inFlow }

/-- A colon. What stands before it turns out to be a key, or it follows a key with a mark of its
own. -/
def fetchValue (t : TokenStream) : Except Fault TokenStream :=
  if t.key.possible then
    let k := t.key
    -- The key is marked after the fact, and if it is the first of a block, the block starts there.
    let t := (t.insertAt k.number .key).rollIndent k.place.column (some k.number) .blockMappingStart
    .ok { t.mark 1 .value with key := { k with possible := false }, keyAllowed := false }
  else if !t.inFlow && !t.keyAllowed then .error .misplacedIndicator
  else
    let t := t.rollIndent t.source.column none .blockMappingStart
    .ok { t.mark 1 .value with keyAllowed := !t.inFlow }

/-- An anchor or an alias. -/
def fetchAnchor (t : TokenStream) (token : List Char → Token) : Except Fault TokenStream := do
  let t ← t.saveKey
  let (name, s) ← readAnchor t.source
  return { t.push (token name) with keyAllowed := false, source := s }

/-- A tag. -/
def fetchTag (t : TokenStream) : Except Fault TokenStream := do
  let t ← t.saveKey
  let (handle, suffix, s) ← readTag t.inFlow t.source
  return { t.push (.tag handle suffix) with keyAllowed := false, source := s }

/-- A block scalar. -/
def fetchBlock (t : TokenStream) (literal : Bool) : Except Fault TokenStream := do
  let t ← t.removeKey
  let (text, s) ← readBlock literal t.indent t.source
  let style := if literal then ScalarStyle.literal else .folded
  return { t.push (.scalar text style) with keyAllowed := true, source := s }

/-- A quoted scalar. -/
def fetchQuoted (t : TokenStream) (quote : Char) : Except Fault TokenStream := do
  let t ← t.saveKey
  let (text, s) ← readQuoted quote t.source
  return { t.push (.scalar text .quoted) with keyAllowed := false, source := s }

/-- A plain scalar. If it ended on a later line, a key may follow. -/
def fetchPlain (t : TokenStream) : Except Fault TokenStream := do
  let t ← t.saveKey
  let (text, ended, s) ← readPlain t.inFlow (t.indent + 1) t.source
  return { t.push (.scalar text .plain) with keyAllowed := ended, source := s }

/-- Whether a character can start nothing but a token of its own. -/
def isIndicator (c : Char) : Bool :=
  ['-', '?', ':', ',', '[', ']', '\x7b', '\x7d', '#', '&', '*', '!', '|', '>', '\'', '"', '%', '@',
    Char.ofNat 0x60].contains c

/-- Whether a plain scalar starts with a character. -/
def startsPlain (flow : Bool) (c : Char) (rest : List Char) : Bool :=
  (!isSpace c && !isIndicator c) ||
    (c = '-' && !(rest.head?.map isSpace).getD false) ||
    (!flow && (c = '?' || c = ':') && !blankOrEnd rest)

/-- The token at this place enters the queue, with those that it brings about. -/
def fetchHere (t : TokenStream) : Except Fault TokenStream := do
  match t.source.rest with
  | [] => t.fetchEnd
  | c :: rest =>
    -- Directives and markers stand at the start of a line, all else anywhere.
    let first := t.source.column = 0
    if first && c = '%' then t.fetchDirective
    else if first && c = '-' && startsMarker (c :: rest) then t.fetchMarker .documentStart
    else if first && c = '.' && startsMarker (c :: rest) then t.fetchMarker .documentEnd
    else if c = '[' then t.fetchOpen .flowSequenceStart
    else if c = '\x7b' then t.fetchOpen .flowMappingStart
    else if c = ']' then t.fetchClose .flowSequenceEnd
    else if c = '\x7d' then t.fetchClose .flowMappingEnd
    else if c = ',' then t.fetchFlowEntry
    else if c = '-' && blankOrEnd rest then t.fetchBlockEntry
    else if c = '?' && (t.inFlow || blankOrEnd rest) then t.fetchKey
    else if c = ':' && (t.inFlow || blankOrEnd rest) then t.fetchValue
    else if c = '*' then t.fetchAnchor .alias
    else if c = '&' then t.fetchAnchor .anchor
    else if c = '!' then t.fetchTag
    else if c = '|' && !t.inFlow then t.fetchBlock true
    else if c = '>' && !t.inFlow then t.fetchBlock false
    else if c = '\'' || c = '"' then t.fetchQuoted c
    else if startsPlain t.inFlow c rest then t.fetchPlain
    else .error .unexpectedCharacter

/-- The next token enters the queue, with those that it brings about. Its kind shows in four
characters at most, and where it ends shows in the character behind it. -/
def fetch (t : TokenStream) : Except Fault TokenStream := do
  if !t.started then return { t.push .streamStart with started := true, keyAllowed := true }
  let t ← (t.skipToToken (t.source.size + 1)).staleKeys
  let t := t.unrollIndent t.source.column
  if !t.source.reaches 4 then .error .controlCharacter
  else
    let t ← t.fetchHere
    if !t.source.reaches 1 then .error .controlCharacter else return t

/-- Whether the first token of the queue may still turn out to be a key. -/
def firstMayBeKey (t : TokenStream) : Bool :=
  (t.key :: t.outerKeys).any fun k => k.possible && k.number == t.taken

/-- Tokens enter the queue until its first one is settled. Every round reads a character or ends the
stream. -/
def settle : Nat → TokenStream → Except Fault TokenStream
  | 0, t => .ok t
  | fuel + 1, t =>
    if t.queue.isEmpty then do settle fuel (← t.fetch)
    else do
      let t ← t.staleKeys
      if t.firstMayBeKey then settle fuel (← t.fetch) else return t

/-- The next token, which stays in the stream. -/
def peek (t : TokenStream) : Except Fault (Token × TokenStream) := do
  let t ← settle (t.source.size + 4) t
  return (t.queue.headD .streamEnd, t)

/-- The stream behind the next token. -/
def drop (t : TokenStream) : TokenStream := { t with queue := t.queue.drop 1, taken := t.taken + 1 }

end TokenStream

end PolicyTrial.Yaml
