import PolicyTrial.CommandLine.Flag

/-!
# Arguments

The arguments of a command line are flags with their values, and plain words. A flag is written out
after two dashes, or with one letter after one; its value follows behind an equals sign or as the
next argument. Behind two dashes alone there are only plain words.

* `Given`: the flags and plain words of some arguments.
* `Given.ofArguments`: reads arguments; `Stop` says why there is nothing to be done with them.
-/

namespace PolicyTrial.CommandLine

/-- What is wrong with a command line. -/
inductive Misuse
  | unknownFlag (argument : String)
  | needlessValue (flag : String)
  | missingValue (flag : String)
  | wrongValue (flag value : String)
  | repeated (flag : String)
  | unexpected (argument : String)
  | missing (what : String)
  | unknownCommand (name : String)
  deriving Repr, DecidableEq

/-- The wording of a misuse. -/
def Misuse.message : Misuse → String
  | .unknownFlag argument | .unexpected argument => "unexpected argument '" ++ argument ++ "' found"
  | .needlessValue flag => "unexpected value for '--" ++ flag ++ "' found; no more were expected"
  | .missingValue flag => "a value is required for '--" ++ flag ++ "' but none was supplied"
  | .wrongValue flag value => "invalid value '" ++ value ++ "' for '--" ++ flag ++ "'"
  | .repeated flag => "the argument '--" ++ flag ++ "' cannot be used multiple times"
  | .missing what => "the following required argument was not provided: " ++ what
  | .unknownCommand name => "unrecognized subcommand '" ++ name ++ "'"

/-- Why there is nothing to be done with arguments. -/
inductive Stop
  | help
  | version
  | misuse (m : Misuse)
  deriving Repr, DecidableEq

/-- The flags and plain words of some arguments. -/
structure Given where
  /-- The flags by their long names with their values, in order. -/
  flags : List (String × String) := []
  words : List String := []
  deriving Repr, DecidableEq

namespace Given

/-- The values of a flag, in order. -/
def values (g : Given) (long : String) : List String :=
  (g.flags.filter (·.1 == long)).map (·.2)

/-- The value of a flag. -/
def value? (g : Given) (long : String) : Option String := g.flags.lookup long

/-- Whether a flag is there. -/
def has (g : Given) (long : String) : Bool := (g.value? long).isSome

/-- A flag with its value, which has to be one that it takes. -/
def add (f : Flag) (value : String) (g : Given) : Except Stop Given :=
  if (f.accepts.getD fun _ => true) value then
    if g.has f.long && !f.repeatable then .error (.misuse (.repeated f.long))
    else .ok { g with flags := g.flags ++ [(f.long, value)] }
  else .error (.misuse (.wrongValue f.long value))

/-- A flag without a value, or the end that it asks for. -/
def addSwitch (f : Flag) (g : Given) : Except Stop Given :=
  if f.long = Flag.help.long then .error .help
  else if f.long = Flag.version.long then .error .version
  else g.add f ""

/-- Letters behind one dash, and the flag that still wants its value, if there is one. -/
def addLetters (known : List Flag) (argument : String) :
    List Char → Given → Except Stop (Given × Option Flag)
  | [], g => .ok (g, none)
  | c :: rest, g =>
    match known.find? (·.short == some c) with
    | none => .error (.misuse (.unknownFlag argument))
    | some f =>
      if f.accepts.isSome then
        match rest with
        | [] => .ok (g, some f)
        | '=' :: value => (g.add f (String.ofList value)).map (·, none)
        | value => (g.add f (String.ofList value)).map (·, none)
      else if rest.head? = some '=' then .error (.misuse (.needlessValue f.long))
      else do addLetters known argument rest (← g.addSwitch f)

/-- A flag behind two dashes, and the flag itself if it still wants its value. -/
def addLong (known : List Flag) (argument : String) (text : List Char) (g : Given) :
    Except Stop (Given × Option Flag) :=
  let name := text.takeWhile (· ≠ '=')
  match known.find? (·.long == String.ofList name), text.drop name.length with
  | none, _ => .error (.misuse (.unknownFlag argument))
  | some f, '=' :: value =>
    if f.accepts.isSome then (g.add f (String.ofList value)).map (·, none)
    else .error (.misuse (.needlessValue f.long))
  | some f, _ =>
    if f.accepts.isSome then .ok (g, some f) else (g.addSwitch f).map (·, none)

/-- Whether an argument is a flag, or the end of flags. -/
def isFlag (argument : String) : Bool :=
  match argument.toList with
  | '-' :: _ :: _ => true
  | _ => false

/-- Takes plain words, of which there is room for so many; none of them may be empty. -/
def addWords (room : Nat) : List String → Given → Except Stop Given
  | [], g => .ok g
  | word :: rest, g =>
    if g.words.length < room then
      if word = "" then .error (.misuse (.wrongValue "" word))
      else addWords room rest { g with words := g.words ++ [word] }
    else .error (.misuse (.unexpected word))

/-- Reads arguments. With no `room` for plain words they are read up to the first plain word; gives
what is behind. -/
def read (known : List Flag) (room : Option Nat) :
    List String → Given → Except Stop (Given × List String)
  | [], g => .ok (g, [])
  | argument :: rest, g =>
    match argument.toList with
    | ['-', '-'] => (addWords (room.getD 0) rest g).map (·, [])
    | '-' :: '-' :: text => continued (addLong known argument text g) rest
    | '-' :: c :: letters => continued (addLetters known argument (c :: letters) g) rest
    | _ =>
      match room with
      | none => .ok (g, argument :: rest)
      | some n =>
        match addWords n [argument] g with
        | .error stop => .error stop
        | .ok g => read known room rest g
where
  /-- What follows a flag, its value first if it still wants one. -/
  continued (step : Except Stop (Given × Option Flag)) (rest : List String) :
      Except Stop (Given × List String) :=
    match step with
    | .error stop => .error stop
    | .ok (g, none) => read known room rest g
    | .ok (g, some f) =>
      match rest with
      | [] => .error (.misuse (.missingValue f.long))
      | value :: rest =>
        if isFlag value then .error (.misuse (.missingValue f.long))
        else
          match g.add f value with
          | .error stop => .error stop
          | .ok g => read known room rest g

/-- Reads all arguments behind a command, with room for so many plain words. -/
def ofArguments (known : List Flag) (room : Nat) (arguments : List String) : Except Stop Given :=
  (read known (some room) arguments {}).map (·.1)

end Given

end PolicyTrial.CommandLine
