import PolicyTrial.CommandLine.Arguments

/-!
# Requests

* `Request`: what a command line asks for.
* `Request.ofArguments`: reads a command line.
-/

namespace PolicyTrial.CommandLine

/-- What a run is asked to do in another way than its settings say. -/
structure RunOptions where
  jobs : Option Word
  channel : Option Channel
  scope : Option ServerScope
  artifacts : Option String
  deriving Repr, DecidableEq

/-- What is asked for. -/
inductive Task
  /-- A run of the scenarios of a manifest; of those that some patterns select if there are
  patterns. -/
  | run (manifest : String) (patterns : List String) (options : RunOptions)
  /-- The list of those scenarios. -/
  | list (manifest : String) (patterns : List String)
  /-- The checks of the engine, with a bundle to look through or none. -/
  | probe (bundle : Option String)
  deriving Repr, DecidableEq

/-- What a command line asks for. -/
structure Request where
  task : Task
  /-- Whether the answer is wanted as JSON. -/
  json : Bool
  config : Option String
  engine : Option String
  port : Option Port
  deriving Repr, DecidableEq

/-- The task of a command with its flags and words; the one word of a run or a list is the path of
the manifest. -/
def Task.ofGiven (command : String) (g : Given) : Except Stop Task :=
  let patterns := g.values "test"
  match command, g.words.head? with
  | "run", some manifest =>
    .ok (.run manifest patterns
      { jobs := (g.value? "jobs").bind size?, channel := (g.value? "channel").bind channel?
        scope := (g.value? "server-scope").bind scope?, artifacts := g.value? "artifacts" })
  | "list", some manifest => .ok (.list manifest patterns)
  | "probe", _ => .ok (.probe (g.value? "lint"))
  | _, _ => .error (.misuse (.missing "<MANIFEST>"))

namespace Request

/-- The commands with their flags, and with the number of words that they take. -/
def commands : List (String × List Flag × Nat) :=
  [("run", Flag.ofRun, 1), ("list", Flag.ofList, 1), ("probe", Flag.ofProbe, 0)]

/-- The end of a command line that asks for help, on a command or on all. -/
def helpOn : List String → Stop
  | [] => .help
  | name :: rest =>
    if name = "help" ∨ (commands.lookup name).isSome then
      match rest with
      | [] => .help
      | other :: _ => .misuse (.unknownCommand other)
    else .misuse (.unknownCommand name)

/-- Reads a command line. A flag that can stand everywhere counts behind the command if it stands
there, too. -/
def ofArguments (arguments : List String) : Except Stop Request := do
  let (before, rest) ← Given.read (Flag.version :: Flag.everywhere) none arguments {}
  match rest with
  | [] => throw (.misuse (.missing "<COMMAND>"))
  | "help" :: names => throw (helpOn names)
  | command :: rest =>
    match commands.lookup command with
    | none => throw (.misuse (.unknownCommand command))
    | some (flags, room) =>
      let given ← Given.ofArguments (Flag.everywhere ++ flags) room rest
      let value? (long : String) : Option String := (given.value? long).or (before.value? long)
      let task ← Task.ofGiven command given
      return { task, json := given.has "json", config := value? "config", engine := value? "engine"
               port := (value? "port").bind port? }

end Request

end PolicyTrial.CommandLine
