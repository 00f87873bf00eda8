import PolicyTrial.Shell.Pattern

/-!
# Fields

A word becomes a list of elements when it is expanded, and those are split into fields.

* `Shell.Element`: an element of an expanded word.
* `Shell.fields`: the fields that an expanded word is split into.
* `Shell.joined`: an expanded word that is not split.
-/

namespace PolicyTrial.Shell

/-- An element of an expanded word. -/
inductive Element
  /-- An octet; it may be quoted, and it may separate fields. -/
  | octet (c : Char) (quoted separable : Bool)
  /-- Something was quoted here, so there is a field even if it is empty. -/
  | quote
  /-- A field ends here. -/
  | boundary
  deriving Repr, DecidableEq

/-- Text that stands in a word as it is. -/
def Element.ofText (s : Octets) (quoted : Bool) : List Element :=
  (if quoted then [.quote] else []) ++ s.map (.octet · quoted false)

/-- A value that is put into a word. -/
def Element.ofValue (s : Octets) (quoted : Bool) : List Element :=
  (if quoted then [.quote] else []) ++ s.map (.octet · quoted !quoted)

/-- Values that are put into a word as fields of their own. -/
def Element.ofValues (values : List Octets) (quoted : Bool) : List Element :=
  [Element.boundary].intercalate (values.map (Element.ofValue · quoted))

/-- Whether a separator is blank; blanks at the ends of fields do not count. -/
def isBlankSeparator (c : Char) : Bool := c == ' ' || c == '\t' || c == '\n'

/-- The fields that elements are split into; `field` holds what is there of the first one, if it has
begun. -/
def fieldsFrom (separators : List Char) (field : Option (List Marked)) :
    List Element → List (List Marked)
  | [] => field.toList.map List.reverse
  | .octet c quoted separable :: rest =>
    if separable && separators.contains c then
      -- A blank ends a field only if one has begun; any other separator ends an empty one as well.
      if isBlankSeparator c then
        field.toList.map List.reverse ++ fieldsFrom separators none rest
      else (field.getD []).reverse :: fieldsFrom separators none rest
    else fieldsFrom separators (some ((c, quoted) :: field.getD [])) rest
  | .quote :: rest => fieldsFrom separators (some (field.getD [])) rest
  | .boundary :: rest => field.toList.map List.reverse ++ fieldsFrom separators none rest

/-- The fields that an expanded word is split into. -/
def fields (separators : List Char) (es : List Element) : List (List Marked) :=
  fieldsFrom separators none es

/-- An expanded word that is not split. -/
def joined (es : List Element) : List Marked :=
  es.filterMap fun e => match e with
    | .octet c quoted _ => some (c, quoted)
    | .quote => none
    | .boundary => some (' ', false)

/-- The octets of an expanded word, quoted or not. -/
def plain (s : List Marked) : Octets := s.map (·.1)

/-- The pattern of an expanded word. -/
def patternOf (es : List Element) : Pattern := Pattern.ofMarked (joined es)

end PolicyTrial.Shell
