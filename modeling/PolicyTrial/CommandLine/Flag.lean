import PolicyTrial.Number.Power
import PolicyTrial.Settings.Environment

/-!
# Flags

* `Flag`: what a flag is called, and what it takes.
* `Flag.everywhere`, `Flag.ofRun`, `Flag.ofList`, `Flag.ofProbe`: the flags that there are.
-/

namespace PolicyTrial.CommandLine

/-- What a flag is called, and what it takes. -/
structure Flag where
  long : String
  short : Option Char
  /-- Which values it takes; nothing if it takes none. -/
  accepts : Option (String → Bool)
  repeatable : Bool

/-- A size: decimal digits, a plus sign before them allowed. -/
def size? (s : String) : Option Word :=
  let ds := match s.toList with
    | '+' :: rest => rest
    | cs => cs
  if ds.isEmpty || !ds.all Char.isDigit then none
  else
    let n := ds.foldl (fun v d => v * 10 + (d.toNat - '0'.toNat)) 0
    if h : n < twoTo 64 then some ⟨n, h⟩ else none

/-- A port: an integer in range, a sign before it allowed. -/
def port? (s : String) : Option Port :=
  match s.toList with
  | '-' :: ds =>
    if Settings.port? ds = some 0 ∧ ds.head? ≠ some '+' then some 0 else none
  | cs => Settings.port? cs

/-- The channel with a name. -/
def channel? (s : String) : Option Channel := Channel.all.find? (·.name == s)

/-- The scope with a name. -/
def scope? (s : String) : Option ServerScope := ServerScope.all.find? (·.name == s)

/-- How much is logged, from little to much. -/
def logLevels : List String := ["error", "warn", "info", "debug", "trace"]

namespace Flag

/-- A flag that is there or not. -/
def switch (long : String) (short : Option Char := none) : Flag := ⟨long, short, none, false⟩

/-- A flag with a value. -/
def valued (long : String) (accepts : String → Bool) (short : Option Char := none) : Flag :=
  ⟨long, short, some accepts, false⟩

/-- A flag with a path, which cannot be empty. -/
def path (long : String) : Flag := valued long (· != "")

/-- The flag that asks for help. -/
def help : Flag := switch "help" (some 'h')

/-- The flag that asks for the version. -/
def version : Flag := switch "version" (some 'V')

/-- The flags that can stand everywhere. -/
def everywhere : List Flag :=
  [help, valued "log-level" logLevels.contains, switch "log-json", path "config", path "engine",
    valued "port" fun s => (port? s).isSome]

/-- The flag that selects scenarios by their ids. -/
def test : Flag := { valued "test" (fun _ => true) (some 't') with repeatable := true }

/-- The flags of a run. -/
def ofRun : List Flag :=
  [test, valued "jobs" (fun s => (size? s).isSome) (some 'j'),
    valued "channel" fun s => (channel? s).isSome, valued "server-scope" fun s => (scope? s).isSome,
    path "artifacts", switch "json"]

/-- The flags of a list. -/
def ofList : List Flag := [test, switch "json"]

/-- The flags of the checks of the engine. -/
def ofProbe : List Flag := [path "lint", switch "json"]

end Flag

end PolicyTrial.CommandLine
