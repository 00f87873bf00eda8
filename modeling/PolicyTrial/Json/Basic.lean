import PolicyTrial.Number.Binary64

/-!
# JSON values

* `Json`: a value. An object read from text has its fields in the order of their keys, each key
  once.
* `Json.putField`: a field enters an object; the last value of a key wins.
* `Json.field?`: the value of a key.
-/

namespace PolicyTrial

/-- A number that was written as an integer and fits 64 bits, or a double. -/
inductive Json.Number
  | integer (value : Int)
  | real (value : Binary64)
  deriving Repr, DecidableEq

/-- A JSON value. -/
inductive Json
  | null
  | bool (value : Bool)
  | number (value : Json.Number)
  | string (value : String)
  | array (items : List Json)
  | object (fields : List (String × Json))
  deriving Repr, Inhabited, BEq

namespace Json

/-- A natural number as a value. -/
def ofNat (n : Nat) : Json := .number (.integer n)

/-- An integer as a value. -/
def ofInt (i : Int) : Json := .number (.integer i)

/-- A list of strings as a value. -/
def ofStrings (ss : List String) : Json := .array (ss.map .string)

/-- A value that may be missing; nothing is `null`. -/
def ofOption {α : Type} (f : α → Json) : Option α → Json
  | none => .null
  | some a => f a

/-- A field enters an object whose keys increase; it replaces the field of the same key. -/
def putField (key : String) (value : Json) : List (String × Json) → List (String × Json)
  | [] => [(key, value)]
  | (k, v) :: rest =>
    if key < k then (key, value) :: (k, v) :: rest
    else if key = k then (key, value) :: rest
    else (k, v) :: putField key value rest

/-- An object from fields in the order of reading: keys increase, the last value of a key wins. -/
def ofFields (fields : List (String × Json)) : Json :=
  .object (fields.foldl (fun acc (k, v) => putField k v acc) [])

/-- The value of a key in an object; nothing for another kind of value. -/
def field? (key : String) : Json → Option Json
  | .object fields => fields.lookup key
  | _ => none

/-- The text of a string. -/
def text? : Json → Option String
  | .string s => some s
  | _ => none

/-- The value of an integer. -/
def integer? : Json → Option Int
  | .number (.integer i) => some i
  | _ => none

/-- The value of a truth value. -/
def bool? : Json → Option Bool
  | .bool b => some b
  | _ => none

/-- What kind of value it is, as a message names it. -/
def kind : Json → String
  | .null => "null"
  | .bool _ => "a boolean"
  | .number _ => "a number"
  | .string _ => "a string"
  | .array _ => "an array"
  | .object _ => "an object"

@[simp] theorem ofNat_def (n : Nat) : ofNat n = .number (.integer n) := rfl

end Json

end PolicyTrial
