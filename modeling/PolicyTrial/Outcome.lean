import PolicyTrial.Json.Basic
import PolicyTrial.Text.Blank
import PolicyTrial.Text.LetterCase

/-!
# Outcomes and their spellings

Engines spell the two outcomes in several ways, and everything is compared in canonical form.

* `Outcome`: granted or denied.
* `Recognition.ofToken`: what a token says, whatever its letter case and the blanks around it.
-/

namespace PolicyTrial

/-- The two canonical outcomes of a decision. -/
inductive Outcome
  | grant
  | deny
  deriving Repr, DecidableEq

namespace Outcome

/-- The canonical spelling. -/
def text : Outcome → String
  | .grant => "GRANT"
  | .deny => "DENY"

/-- The outcome as a JSON value. -/
def toJson (o : Outcome) : Json := .string o.text

/-- The other outcome. -/
def other : Outcome → Outcome
  | .grant => .deny
  | .deny => .grant

/-- The recognized spellings, in upper case. -/
def spellings : List (String × Outcome) :=
  [("ALLOW", .grant), ("PERMIT", .grant), ("GRANT", .grant), ("DENY", .deny), ("REJECT", .deny)]

end Outcome

/-- What a token says. -/
inductive Recognition
  /-- It spells an outcome. -/
  | canonical (outcome : Outcome)
  /-- It is no known spelling; the token is kept, trimmed and in upper case. -/
  | unrecognized (token : String)
  /-- There is no token, or it is blank. -/
  | empty
  deriving Repr, DecidableEq

namespace Recognition

/-- What a trimmed token in upper case says. -/
def ofUpper (upper : String) : Recognition :=
  if upper = "" then .empty
  else
    match Outcome.spellings.lookup upper with
    | some o => .canonical o
    | none => .unrecognized upper

/-- A token, trimmed and in upper case. -/
def upperTrimmed (token : String) : String :=
  String.ofList (Text.uppercase (Text.trim token.toList))

/-- What a token says, whatever its letter case and the blanks around it. -/
def ofToken : Option String → Recognition
  | none => .empty
  | some token => ofUpper (upperTrimmed token)

/-- The outcome, if one is spelled. -/
def outcome? : Recognition → Option Outcome
  | .canonical o => some o
  | _ => none

/-- The text that shows what was recognized. -/
def text : Recognition → String
  | .canonical o => o.text
  | .unrecognized token => token
  | .empty => ""

end Recognition

end PolicyTrial
