import PolicyTrial.Text.CharSet

/-!
# White space and trimming

* `isBlank`: the characters with the property `White_Space`.
* `trim`: a text without the blanks at its two ends.
-/

namespace PolicyTrial.Text

/-- The characters with the property `White_Space`. -/
def blanks : CharSet where
  bounds := [0x9, 0xE, 0x20, 0x21, 0x85, 0x86, 0xA0, 0xA1, 0x1680, 0x1681, 0x2000, 0x200B,
    0x2028, 0x202A, 0x202F, 0x2030, 0x205F, 0x2060, 0x3000, 0x3001]

/-- Whether a character is white space. -/
def isBlank (c : Char) : Bool := blanks.contains c

/-- A text without its leading blanks. -/
def trimStart (s : List Char) : List Char := s.dropWhile isBlank

/-- A text without its trailing blanks. -/
def trimEnd (s : List Char) : List Char := (s.reverse.dropWhile isBlank).reverse

/-- A text without the blanks at its two ends. -/
def trim (s : List Char) : List Char := trimEnd (trimStart s)

/-- Blanks at the two ends of a string are cut off. -/
def trimmed (s : String) : String := String.ofList (trim s.toList)

/-- Trailing blanks of a string are cut off. -/
def trimmedEnd (s : String) : String := String.ofList (trimEnd s.toList)

example : trimmed "\u00a0 a b\u2028" = "a b" := by decide

end PolicyTrial.Text
