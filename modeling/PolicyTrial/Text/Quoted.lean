import PolicyTrial.Text.Unprintable

/-!
# Quoted texts

How a message shows a text that may hold anything: between double quotes, with escapes for the
quote, the backslash and everything that has no printed form of its own.

* `escapeChar`: what stands for one character.
* `quoted`: the text between its quotes.
-/

namespace PolicyTrial.Text

/-- The hexadecimal digits of a number, lower case, without leading zeros. -/
def hexDigits (n : Nat) : List Char := Nat.toDigits 16 n

/-- Whether a character is shown by its number. -/
def needsNumber (c : Char) : Bool :=
  if c.toNat < 0x7F then c.toNat < 0x20
  else graphemeExtenders.contains c || unprintables.contains c

/-- What stands for one character between double quotes. -/
def escapeChar (c : Char) : List Char :=
  if c = '\x00' then ['\\', '0']
  else if c = '\t' then ['\\', 't']
  else if c = '\r' then ['\\', 'r']
  else if c = '\n' then ['\\', 'n']
  else if c = '"' then ['\\', '"']
  else if c = '\\' then ['\\', '\\']
  else if needsNumber c then ['\\', 'u', '\x7b'] ++ hexDigits c.toNat ++ ['\x7d']
  else [c]

/-- A text between double quotes. -/
def quoted (s : String) : String :=
  String.ofList ('"' :: s.toList.flatMap escapeChar ++ ['"'])

example : quoted "a\"b\n\u001b\u0301'" = "\"a\\\"b\\n\\u\x7b1b\x7d\\u\x7b301\x7d'\"" := by
  decide +kernel

end PolicyTrial.Text
