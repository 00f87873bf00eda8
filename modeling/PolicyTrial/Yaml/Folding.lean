import PolicyTrial.Yaml.Source

/-!
# Scalars over several lines

Inside a plain or quoted scalar, blanks are kept within a line and dropped around line breaks. A
single break becomes a space, and of several breaks the first one is dropped.

* `Folding`: the text read so far, and the blanks that may follow it.
* `Folding.readBlanks`: the blanks and breaks at a place.
* `Folding.join`: the blanks become part of the text.
-/

namespace PolicyTrial.Yaml

/-- A scalar being read. All texts are reversed. -/
structure Folding where
  text : List Char
  /-- Blanks since the last character that is none. -/
  blanks : List Char
  /-- The first break since then. -/
  firstBreak : List Char
  /-- The breaks after the first one. -/
  breaks : List Char
  /-- Whether the line has ended since then. -/
  ended : Bool
  deriving Repr

namespace Folding

/-- A scalar without any text. -/
def empty : Folding := ⟨[], [], [], [], false⟩

/-- A character enters the text. -/
def push (f : Folding) (c : Char) : Folding := { f with text := c :: f.text }

/-- The blanks read since the last character become part of the text. -/
def join (f : Folding) : Folding :=
  let text :=
    if !f.ended then f.blanks ++ f.text
    else if f.firstBreak = ['\n'] then
      if f.breaks.isEmpty then ' ' :: f.text else f.breaks ++ f.text
    else f.breaks ++ f.firstBreak ++ f.text
  { text, blanks := [], firstBreak := [], breaks := [], ended := false }

/-- Whether there are blanks that are not part of the text yet. -/
def pending (f : Folding) : Bool := f.ended || !f.blanks.isEmpty

/-- The blanks and breaks at a place. A tab on a new line before the column `margin` is a fault. -/
def readBlanks (margin : Int) : Nat → Folding → Source → Except Fault (Folding × Source)
  | 0, f, s => .ok (f, s)
  | fuel + 1, f, s =>
    match s.rest with
    | [] => .ok (f, s)
    | c :: _ =>
      if isSpace c then
        if f.ended then
          if c = '\t' ∧ (s.column : Int) < margin then .error .tabInIndentation
          else readBlanks margin fuel f (s.skip 1)
        else readBlanks margin fuel { f with blanks := c :: f.blanks } (s.skip 1)
      else if isBreak c then
        let (b, s) := s.readBreak
        if f.ended then readBlanks margin fuel { f with breaks := b ++ f.breaks } s
        else readBlanks margin fuel { f with blanks := [], firstBreak := b, ended := true } s
      else .ok (f, s)

end Folding

end PolicyTrial.Yaml
