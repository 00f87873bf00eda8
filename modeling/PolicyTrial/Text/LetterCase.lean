import PolicyTrial.Text.CaseContext
import PolicyTrial.Text.LowerForms
import PolicyTrial.Text.UpperForms

/-!
# Upper and lower case

Full case mapping of texts, with the rules of the Unicode Standard that do not depend on a language.

* `uppercase`: every character is replaced by its upper case form.
* `lowercase`: every character is replaced by its lower case form; a capital sigma that ends a word
  becomes a final sigma.
-/

namespace PolicyTrial.Text

/-- The upper case form of a character. -/
def upperChar (c : Char) : List Char :=
  if c.toNat < 0x80 then [c.toUpper]
  else (formOf upperRuns upperExpansions c.toNat).map Char.ofNat

/-- The lower case form of a character, wherever it stands. -/
def lowerChar (c : Char) : List Char :=
  if c.toNat < 0x80 then [c.toLower]
  else (formOf lowerRuns lowerExpansions c.toNat).map Char.ofNat

/-- The upper case form of a text. -/
def uppercase (s : List Char) : List Char := s.flatMap upperChar

/-- Whether the first character that is not case-ignorable is a letter with case. -/
def meetsCased (s : List Char) : Bool :=
  match s.dropWhile caseIgnorable.contains with
  | [] => false
  | c :: _ => casedLetters.contains c

/-- Whether a place in a text ends a word: a letter with case precedes it and none follows, each
time past what is case-ignorable. The text before the place is given in reverse. -/
def endsWord (before after : List Char) : Bool := meetsCased before && !meetsCased after

/-- The lower case form of a character that stands between two texts, the first one reversed. -/
def lowerBetween (before : List Char) (c : Char) (after : List Char) : List Char :=
  if c = 'Σ' then [if endsWord before after then 'ς' else 'σ'] else lowerChar c

/-- The lower case form of a text that follows `before`, put in front of the reversed `out`. -/
def lowerOnto (before out : List Char) : List Char → List Char
  | [] => out.reverse
  | c :: rest => lowerOnto (c :: before) ((lowerBetween before c rest).reverse ++ out) rest

/-- The lower case form of a text. -/
def lowercase (s : List Char) : List Char := lowerOnto [] [] s

example : String.ofList (uppercase "straße ﬁ ı".toList) = "STRASSE FI I" := by decide +kernel
example : String.ofList (lowercase "ΟΔΟΣ ΣΑ ΑΣ. İ".toList) = "οδος σα ας. i̇" := by decide +kernel

end PolicyTrial.Text
