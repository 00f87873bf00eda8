import PolicyTrial.CommandLine.Work
import PolicyTrial.Json.Parser

/-!
# The program

The arguments say what is to be done. The input is one JSON object that describes the host: its
`files` by their paths, the paths of `programs` among them, its `environment`, and the `time` in
seconds since the start of 1970.
-/

namespace PolicyTrial

/-- The fields of a JSON object that hold texts. -/
def textFields (j : Option Json) : List (String × String) :=
  match j with
  | some (.object fields) => fields.filterMap fun (key, v) => v.text?.map (key, ·)
  | _ => []

/-- The host that a JSON value describes. -/
def Environment.ofJson (j : Json) : Environment :=
  let programs := match j.field? "programs" with
    | some (.array paths) => paths.filterMap Json.text?
    | _ => []
  let files := (textFields (j.field? "files")).foldl (fun t (path, content) =>
    t.place path (Bytes.ofString content) (programs.contains path)) FileTree.empty
  ⟨textFields (j.field? "environment"), "/usr/local/bin", files, .unchecked⟩

end PolicyTrial

open PolicyTrial in
/-- Reads the host from the input, does what the arguments say, and prints what comes of it. -/
def main (arguments : List String) : IO UInt32 := do
  let input ← (← IO.getStdin).readToEnd
  let host := (Json.parse input.toList).toOption.getD (.object [])
  let time := ((host.field? "time").bind Json.integer?).getD 0
  let (printed, _) := CommandLine.respond (Environment.ofJson host) ("run-" ++ toString time)
    ⟨time, 0⟩ arguments
  IO.print printed.out
  IO.eprint printed.err
  return UInt32.ofNat printed.exit
