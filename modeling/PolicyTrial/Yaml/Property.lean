import PolicyTrial.Yaml.Source

/-!
# Tags, anchors and directives

A tag is a text of octets: an escape may write any octet of a sequence, and nothing checks that the
sequence is a character. An octet zero ends the tag.

* `Yaml.readAnchor`: the name of an anchor or alias.
* `Yaml.readTag`: the handle and the suffix of a tag.
* `Yaml.readDirective`: a line that starts with a percent sign.
-/

namespace PolicyTrial.Yaml

/-- The name behind the mark of an anchor or alias, and the place behind it. -/
def readAnchor (s : Source) : Except Fault (List Char × Source) :=
  let s := s.skip 1
  let name := s.rest.takeWhile isWord
  let s := s.skip name.length
  let closed := blankOrEnd s.rest ||
    (s.peek?.map (['?', ':', ',', ']', '\x7d', '%', '@', Char.ofNat 0x60].contains ·)).getD false
  if name.isEmpty || !closed then .error .badAnchor else .ok (name, s)

/-- The octet that marks a tag as one of the document's own. -/
def localMark : Bytes := [0x21]

/-- The value of two hexadecimal digits behind a percent sign. -/
def readOctet (s : Source) : Except Fault (Nat × Source) :=
  let hex (c : Char) : Option Nat :=
    if '0' ≤ c ∧ c ≤ '9' then some (c.toNat - '0'.toNat)
    else if 'a' ≤ c ∧ c ≤ 'f' then some (c.toNat - 'a'.toNat + 10)
    else if 'A' ≤ c ∧ c ≤ 'F' then some (c.toNat - 'A'.toNat + 10)
    else none
  match s.rest with
  | '%' :: a :: b :: _ =>
    match hex a, hex b with
    | some x, some y => .ok (x * 16 + y, s.skip 3)
    | _, _ => .error .badTag
  | _ => .error .badTag

/-- So many further octets of an escaped sequence. -/
def readOctets : Nat → Source → Except Fault (Bytes × Source)
  | 0, s => .ok ([], s)
  | n + 1, s => do
    let (octet, s) ← readOctet s
    if octet < 0x80 ∨ 0xBF < octet then .error .badTag
    else
      let (further, s) ← readOctets n s
      return (UInt8.ofNat octet :: further, s)

/-- A sequence of escaped octets, as long as its first octet says. -/
def readEscaped (s : Source) : Except Fault (Bytes × Source) := do
  let (octet, s) ← readOctet s
  let (further, s) ←
    if octet < 0x80 then pure ([], s)
    else if 0xC0 ≤ octet ∧ octet < 0xE0 then readOctets 1 s
    else if 0xE0 ≤ octet ∧ octet < 0xF0 then readOctets 2 s
    else if 0xF0 ≤ octet ∧ octet < 0xF8 then readOctets 3 s
    else .error .badTag
  return (UInt8.ofNat octet :: further, s)

/-- Whether a character may stand in a tag as it is; some only in a verbatim one. -/
def isTagChar (verbatim : Bool) (c : Char) : Bool :=
  isWord c ||
    [';', '/', '?', ':', '@', '&', '=', '+', '$', '.', '!', '~', '*', '\'', '(', ')'].contains c ||
    (verbatim && [',', '[', ']'].contains c)

/-- The octets of a tag at a place behind the reversed `out`. -/
def readTagOctets (verbatim : Bool) : Nat → Bytes → Source → Except Fault (Bytes × Source)
  | 0, out, s => .ok (out.reverse, s)
  | fuel + 1, out, s =>
    match s.peek? with
    | none => .ok (out.reverse, s)
    | some c =>
      if c = '%' then do
        let (octets, s) ← readEscaped s
        readTagOctets verbatim fuel (octets.reverse ++ out) s
      else if isTagChar verbatim c then
        readTagOctets verbatim fuel (UInt8.ofNat c.toNat :: out) (s.skip 1)
      else .ok (out.reverse, s)

/-- The octets of a tag behind the text `head`, whose first character is a mark. There has to be at
least one character, the mark included. -/
def readTagUri (verbatim : Bool) (head : List Char) (s : Source) :
    Except Fault (Bytes × Source) := do
  let (octets, s') ← readTagOctets verbatim (s.size + 1) [] s
  if head.isEmpty && octets.isEmpty then .error .badTag
  else return ((Text.Utf8.encode (head.drop 1) ++ octets).takeWhile (· ≠ 0), s')

/-- The handle at a place: an exclamation mark, and maybe a name with a second one. -/
def readHandle (directive : Bool) (s : Source) : Except Fault (List Char × Source) :=
  if s.peek? ≠ some '!' then .error .badTag
  else
    let name := (s.skip 1).rest.takeWhile isWord
    let s := s.skip (name.length + 1)
    if s.peek? = some '!' then .ok ('!' :: name ++ ['!'], s.skip 1)
    else if directive && !name.isEmpty then .error .badTag
    else .ok ('!' :: name, s)

/-- Whether a handle is one: it has a second exclamation mark. -/
def isNamedHandle (handle : List Char) : Bool :=
  decide (2 ≤ handle.length) && handle.getLast? == some '!'

/-- The handle and the suffix of a tag that is not verbatim. -/
def readShortTag (s : Source) : Except Fault (List Char × Bytes × Source) := do
  let (handle, s) ← readHandle false s
  if isNamedHandle handle then
    let (suffix, s) ← readTagUri false [] s
    return (handle, suffix, s)
  else
    let (suffix, s) ← readTagUri false handle s
    if suffix.isEmpty then return ([], localMark, s) else return (['!'], suffix, s)

/-- The suffix of a tag in angle brackets. -/
def readVerbatimTag (s : Source) : Except Fault (List Char × Bytes × Source) := do
  let (suffix, s) ← readTagUri true [] (s.skip 2)
  if s.peek? = some '>' then return ([], suffix, s.skip 1) else .error .badTag

/-- The handle and the suffix of a tag, and the place behind it. A verbatim tag has no handle. -/
def readTag (flow : Bool) (s : Source) : Except Fault (List Char × Bytes × Source) := do
  let (handle, suffix, s) ←
    if (s.skip 1).peek? = some '<' then readVerbatimTag s else readShortTag s
  if blankOrEnd s.rest || (flow && s.peek? = some ',') then return (handle, suffix, s)
  else .error .badTag

/-- A line that starts with a percent sign. -/
inductive Directive
  | version (major minor : Nat)
  | tag (handle : List Char) (lead : Bytes)
  deriving Repr, DecidableEq

/-- A number of at most nine digits. -/
def readVersionNumber (s : Source) : Except Fault (Nat × Source) :=
  let ds := s.rest.takeWhile Char.isDigit
  if ds.isEmpty || ds.length > 9 then .error .badDirective
  else .ok (ds.foldl (fun v d => v * 10 + (d.toNat - '0'.toNat)) 0, s.skip ds.length)

/-- What a directive says, behind its name. -/
def readDirectiveValue (name : List Char) (s : Source) : Except Fault (Directive × Source) := do
  let s := s.skipWhile isSpace
  if name = "YAML".toList then
    let (major, s) ← readVersionNumber s
    if s.peek? ≠ some '.' then .error .badDirective
    else
      let (minor, s) ← readVersionNumber (s.skip 1)
      return (.version major minor, s)
  else if name = "TAG".toList then
    let (handle, s) ← readHandle true s
    if !(s.peek?.map isSpace).getD false then .error .badDirective
    else
      let (lead, s) ← readTagUri true [] (s.skipWhile isSpace)
      if blankOrEnd s.rest then return (.tag handle lead, s) else .error .badDirective
  else .error .badDirective

/-- A directive, and the place behind its line. -/
def readDirective (s : Source) : Except Fault (Directive × Source) := do
  let s := s.skip 1
  let name := s.rest.takeWhile isWord
  let s := s.skip name.length
  if name.isEmpty || !blankOrEnd s.rest then .error .badDirective
  else
    let (d, s) ← readDirectiveValue name s
    let s := (s.skipWhile isSpace).skipComment
    if breakOrEnd s.rest then return (d, s.skipBreak) else .error .badDirective

end PolicyTrial.Yaml
