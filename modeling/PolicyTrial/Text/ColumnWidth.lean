import PolicyTrial.Text.EmojiTable
import PolicyTrial.Text.WidthTable

/-!
# Columns on a terminal

How many columns a line takes depends on more than its characters one by one: an emoji may consist
of several characters, a selector may turn a character into an emoji, and in some scripts letters
join. What a character adds is decided by what stands behind it, so a line is read from its end.

* `Behind`, `Context`: what is remembered of the characters behind a place.
* `step`: the columns that a character adds in its context, with the context before it.
* `columns`: the columns that a line takes.
-/

namespace PolicyTrial.Text

/-! ## What stands behind a character -/

/-- Letters that form a ligature with a letter before them. -/
inductive Ligature
  /-- The Hebrew letter lamed. -/
  | lamed
  /-- The Buginese letter ya. -/
  | ya
  /-- The Buginese letter ya after the vowel sign i. -/
  | vowelYa
  /-- A Tifinagh consonant. -/
  | consonant
  /-- A Tifinagh consonant after the joiner of consonants. -/
  | boundConsonant
  /-- A tone letter of Lisu that can be the second of a pair. -/
  | toneLetter
  /-- The Old Turkic letter of Orkhon i. -/
  | orkhonI
  /-- A Khmer letter that can be written below another one. -/
  | subscript
  deriving Repr, DecidableEq

/-- The rest of a sequence of characters that may be shown as one emoji. -/
inductive EmojiRest
  /-- One letter of a region. -/
  | region
  /-- Two or more letters of regions. -/
  | regions
  /-- An emoji. -/
  | whole
  /-- A skin tone. -/
  | modifier
  /-- A joiner with the rest of an emoji. -/
  | joined
  /-- The frame of a key behind a joiner. -/
  | joinedKeycap
  /-- A letter of a region, which a joiner binds to an emoji. -/
  | joinedRegion
  /-- An even number of such letters. -/
  | evenRegions
  /-- An odd number of such letters, more than one. -/
  | oddRegions
  /-- The end of a tag with this many letters in front, and digits in front of those. -/
  | tag (letters digits : Nat)
  deriving Repr, DecidableEq

/-- What stands behind a character, as far as it bears on the columns of that character. -/
inductive Behind
  | nothing
  | lineFeed
  /-- The Arabic letter alef. -/
  | alef
  /-- A letter that forms a ligature, and whether a joiner is in front of it. -/
  | ligature (letter : Ligature) (joined : Bool)
  | emoji (rest : EmojiRest)
  deriving Repr, DecidableEq

/-- How a variation selector has the character before it shown. -/
inductive Style
  | text
  | emoji
  deriving Repr, DecidableEq

/-- What stands behind a character: first a variation selector, if there is one. -/
structure Context where
  behind : Behind
  style : Option Style
  deriving Repr, DecidableEq

/-- The context at the end of a line. -/
def Context.bare : Context := ⟨.nothing, none⟩

/-- What is left of the characters behind a variation selector once the selector has been passed by:
only letters that may still form a ligature. -/
def Behind.past : Behind → Behind
  | .alef => .alef
  | .ligature l j => .ligature l j
  | _ => .nothing

/-- What is left of the characters behind a selector that asks for an emoji. -/
def Behind.underEmojiStyle : Behind → Behind
  | .emoji .joined => .emoji .joined
  | .emoji .joinedKeycap => .emoji .joinedKeycap
  | b => b.past

/-! ## Single characters -/

/-- The columns of a character by its own width. -/
def plainColumns (c : Char) : Nat :=
  if c == '\u17D8' then 3
  else if zeroWidth.contains c then 0
  else if doubleWidth.contains c then 2
  else 1

/-- Arabic letters alef. -/
def isAlef (c : Char) : Bool :=
  ("\u0622\u0623\u0625\u0627\u0671\u0672\u0673\u0675\u0773\u0774".toList.contains c) ||
    ('\u0870' ≤ c && c ≤ '\u0882')

/-- Arabic letters lam. -/
def isLam (c : Char) : Bool :=
  "\u0644\u06B5\u06B6\u06B7\u06B8\u076A\u08A6\u08C7".toList.contains c

/-- Consonants of Tifinagh. -/
def isTifinaghConsonant (c : Char) : Bool := ('\u2D31' ≤ c && c ≤ '\u2D65') || c == '\u2D6F'

/-- Khmer letters that can be written below another one. -/
def isKhmerSubscript (c : Char) : Bool :=
  ('\u1780' ≤ c && c ≤ '\u17A2' &&
      !"\u1783\u1788\u178D\u1794\u1799\u179A\u179E\u179F\u17A1".toList.contains c) ||
    "\u17A7\u17AB\u17AC\u17AF".toList.contains c

/-- The letters of which two name a region. -/
def isRegion (c : Char) : Bool := 0x1F1E6 ≤ c.toNat && c.toNat ≤ 0x1F1FF

/-- Skin tones. -/
def isModifier (c : Char) : Bool := 0x1F3FB ≤ c.toNat && c.toNat ≤ 0x1F3FF

/-- Marks without a display of their own, which do not part a ligature. -/
def isInvisibleMark (c : Char) : Bool :=
  "\u034F\u17B4\u17B5\u180B\u180C\u180D\u180F".toList.contains c ||
    ('\uFE00' ≤ c && c ≤ '\uFE0F') || (0xE0100 ≤ c.toNat && c.toNat ≤ 0xE01EF)

/-- Marks across which Arabic letters join. -/
def isTransparent (c : Char) : Bool := zeroWidth.contains c && !zeroWidthParting.contains c

/-- The columns of a character that nothing behind bears upon, with the context before it. -/
def aloneStep (c : Char) : Nat × Context :=
  if c ≤ '\u00A0' then (1, ⟨if c == '\n' then .lineFeed else .nothing, none⟩)
  else if c == '\uFE0E' then (0, ⟨.nothing, some .text⟩)
  else if c == '\uFE0F' then (0, ⟨.nothing, some .emoji⟩)
  else if isRegion c then (1, ⟨.emoji .region, none⟩)
  else if isModifier c then (2, ⟨.emoji .modifier, none⟩)
  else if emojiByDefault.contains c then (2, ⟨.emoji .whole, none⟩)
  else
    let behind : Behind :=
      if isAlef c then .alef
      else if c == '\u05DC' then .ligature .lamed false
      else if c == '\u1A10' then .ligature .ya false
      else if isTifinaghConsonant c then .ligature .consonant false
      else if c == '\uA4FC' || c == '\uA4FD' then .ligature .toneLetter false
      else if c.toNat == 0x10C03 then .ligature .orkhonI false
      else if isKhmerSubscript c then .ligature .subscript false
      else .nothing
    (plainColumns c, ⟨behind, none⟩)

/-! ## Characters that join with what is behind them -/

/-- What a character adds that forms a ligature with the letter behind it. -/
def ligatureStep (letter : Ligature) (joined : Bool) (c : Char) : Option (Int × Behind) :=
  match letter with
  | .lamed => if joined && c == '\u05D0' then some (0, .nothing) else none
  | .ya => if joined && c == '\u1A17' then some (0, .ligature .vowelYa false) else none
  | .vowelYa => if c == '\u1A15' then some (0, .nothing) else none
  | .consonant =>
    if c == '\u2D7F' then some (1, .ligature .boundConsonant false)
    else if joined && isTifinaghConsonant c then some (0, .nothing)
    else none
  | .boundConsonant => if isTifinaghConsonant c then some (-1, .nothing) else none
  | .toneLetter => if '\uA4F8' ≤ c && c ≤ '\uA4FB' then some (0, .nothing) else none
  | .orkhonI => if joined && c.toNat == 0x10C32 then some (0, .nothing) else none
  | .subscript => if c == '\u17D2' then some (-1, .nothing) else none

/-- What a character adds in front of a joiner that binds it to an emoji. -/
def joinedStep (c : Char) : Option (Int × EmojiRest) :=
  if c == '\u20E3' then some (0, .joinedKeycap)
  else if isRegion c then some (1, .joinedRegion)
  else if isModifier c then some (0, .modifier)
  else if c.toNat == 0xE007F then some (0, .tag 0 0)
  else if emojiByDefault.contains c then some (0, .whole)
  else none

/-- What a character adds in front of a tag, which has at most six letters, or at most four letters
with three digits before them. The flag that bears the tag needs three of either. -/
def tagStep (letters digits : Nat) (c : Char) : Option (Int × EmojiRest) :=
  let n := c.toNat
  if digits == 0 && letters < 6 && 0xE0061 ≤ n && n ≤ 0xE007A then
    some (0, .tag (letters + 1) 0)
  else if letters < 5 && digits < 3 && 0xE0030 ≤ n && n ≤ 0xE0039 then
    some (0, .tag letters (digits + 1))
  else if n == 0x1F3F4 && ((digits == 0 && 3 ≤ letters) || digits == 3) then some (0, .whole)
  else none

/-- What a character adds that continues an emoji to the front. -/
def emojiStep (rest : EmojiRest) (c : Char) : Option (Int × EmojiRest) :=
  let joiner := c == '\u200D'
  match rest with
  | .region => if isRegion c then some (1, .regions) else none
  | .regions =>
    if isRegion c then some (1, .regions) else if joiner then some (0, .joined) else none
  | .whole => if joiner then some (0, .joined) else none
  | .modifier =>
    if modifierBases.contains c then some (0, .whole)
    else if joiner then some (0, .joined)
    else none
  | .joined => joinedStep c
  | .joinedKeycap => none
  | .joinedRegion => if isRegion c then some (-1, .evenRegions) else none
  | .evenRegions =>
    if isRegion c then some (3, .oddRegions) else if joiner then some (0, .joined) else none
  | .oddRegions =>
    if isRegion c then some (-1, .evenRegions) else if joiner then some (0, .joined) else none
  | .tag letters digits => tagStep letters digits c

/-- What a character adds that joins with what is behind it. -/
def joiningStep (behind : Behind) (c : Char) : Option (Int × Context) :=
  match behind with
  | .nothing => none
  | .lineFeed => if c == '\r' then some (0, .bare) else none
  | .alef =>
    if isLam c then some (0, .bare)
    else if isTransparent c then some (0, ⟨.alef, none⟩)
    else none
  | .ligature letter joined =>
    if c == '\u200D' then some (0, ⟨.ligature letter true, none⟩)
    else if isInvisibleMark c then some (0, ⟨.ligature letter joined, none⟩)
    else (ligatureStep letter joined c).map fun (n, b) => (n, ⟨b, none⟩)
  | .emoji rest => (emojiStep rest c).map fun (n, r) => (n, ⟨.emoji r, none⟩)

/-! ## Lines -/

/-- Whether a character takes the style of the selector behind it, and what it then adds. -/
def styledStep (context : Context) (c : Char) : Option (Int × Context) :=
  match context.style with
  | none => none
  | some .emoji =>
    if styledBases.contains c then
      -- An emoji that a joiner binds to the one behind it is shown in the place of that one.
      let bound := context.behind == .emoji .joined || context.behind == .emoji .joinedKeycap
      some (if bound then 0 else 2, ⟨.emoji .whole, none⟩)
    else none
  | some .text =>
    -- Wide symbols that contain an ideograph stay wide.
    let ideographic := 0x1F200 ≤ c.toNat && c.toNat ≤ 0x1F2FF
    if emojiByDefault.contains c && styledBases.contains c && !ideographic then some (1, .bare)
    else none

/-- What a variation selector leaves to the character before it. -/
def selectorStep (behind : Behind) (c : Char) : Option (Int × Context) :=
  if c == '\uFE0E' then some (0, ⟨behind.past, some .text⟩)
  else if c == '\uFE0F' then some (0, ⟨behind.underEmojiStyle, some .emoji⟩)
  else none

/-- The columns that a character adds in its context, with the context before it. -/
def step (context : Context) (c : Char) : Int × Context :=
  match styledStep context c with
  | some taken => taken
  | none =>
    let behind := if context.style.isSome then context.behind.past else context.behind
    match selectorStep behind c with
    | some taken => taken
    | none =>
      match joiningStep behind c with
      | some taken => taken
      | none => ((aloneStep c).1, (aloneStep c).2)

/-- The columns of a line, with the context in front of it. -/
def measure (s : List Char) : Int × Context :=
  s.foldr (fun c (sum, context) =>
    let (n, before) := step context c
    (n + sum, before)) (0, .bare)

/-- The columns that a line takes. -/
def columns (s : List Char) : Nat := (measure s).1.toNat

/-- A heart is one column wide as text and two as an emoji. -/
example : columns "\u2764".toList = 1 ∧ columns "\u2764\uFE0F".toList = 2 := by decide +kernel

/-- The letters lam and alef share a column. -/
example : columns "\u0644\u0627".toList = 1 ∧ columns "\u0627\u0644".toList = 2 := by
  decide +kernel

end PolicyTrial.Text
