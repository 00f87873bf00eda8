import PolicyTrial.Shell.Builtin
import PolicyTrial.Shell.Field
import PolicyTrial.Shell.Reader

/-!
# Running scripts

* `Shell.execute`: a script, run up to a horizon.
* `Shell.Transcript`: how it stands there.
-/

namespace PolicyTrial.Shell

/-! ### Costs, in nanoseconds -/

/-- How long the shell takes for a command that it does itself. -/
def ownCost : Nat := 5000

/-- How long it takes to start a program. -/
def startCost : Nat := 1000000

/-! ### Shells of their own -/

/-- The state in which a shell of its own starts: handlers are gone, ignored signals stay
ignored. -/
def State.forked (s : State) : State :=
  { s with traps := s.traps.filter (·.2.isEmpty), collected := none, backgroundEnd := s.now }

/-- A script after a shell of its own has ended: what that one wrote and did to the files is there,
and so is the time that it took, but its variables, its place, and the streams that it opened are
gone. -/
def State.joinedBy (s child : State) : State :=
  { s with
    status := child.status
    flow := if child.isOver then child.flow else s.flow
    input := child.input
    streams := child.streams.drop (child.streams.length - s.streams.length)
    files := ⟨child.files.entries, s.files.workingDir⟩
    changes := child.changes
    now := child.now
    streamsEnd := max s.streamsEnd child.streamsEnd }

/-- Whether a script still holds one of its own streams. -/
def State.holdsStreams (s : State) : Bool :=
  s.sinks.any fun (_, sink) => sink == .stream 0 || sink == .stream 1

/-! ### Programs -/

/-- The directories in which the utilities are found. -/
def utilityDirs : List String := ["/bin", "/usr/bin"]

/-- The utility with a name. -/
def utilityNamed? (name : Octets) : Option String :=
  let n := String.ofList name
  if (Utility.run FileTree.empty [] n []).isSome then some n else none

/-- The utility at a path. -/
def utilityAt? (path : Octets) : Option String :=
  utilityDirs.findSome? fun dir =>
    let start := (dir ++ "/").toList
    if start.isPrefixOf path then utilityNamed? (path.drop start.length) else none

/-- Whether a utility is found at a path. -/
def isUtility (path : Octets) : Bool := (utilityAt? path).isSome

/-- The utility with a name, or with a path. -/
def State.utility? (s : State) (name : Octets) : Option String :=
  if name.contains '/' then utilityAt? name
  else
    let path := (s.value? "PATH".toList).getD "/usr/bin:/bin".toList
    let listed := utilityDirs.any fun dir => (List.splitOn ':' path).contains dir.toList
    if listed then utilityNamed? name else none

/-- A script that complains about a command that is not there. -/
def State.missing (line : Nat) (name : Octets) (s : State) : State :=
  let path := Octets.text name
  let found := name.contains '/' && (s.files.isFile path || s.files.isDir path)
  if found then (s.complain line (name ++ ": Permission denied".toList)).withStatus 126
  else (s.complain line (name ++ ": not found".toList)).withStatus 127

/-- A program is run. -/
def State.program (line : Nat) (name : Octets) (args : List Octets) (s : State) : State :=
  match s.utility? name with
  | none => s.missing line name
  | some utility =>
    let s := s.pass (some startCost)
    if s.isOver then s
    else
      match Utility.run s.files s.input utility args with
      | some e => s.absorb e
      | none => s

/-- A program takes the place of the script. -/
def State.replaced (line : Nat) (name : Octets) (args : List Octets) (s : State) : State :=
  let s := match s.utility? name with
    | none => s.missing line ("exec: ".toList ++ name)
    | some _ => { s with traps := s.traps.filter (·.2.isEmpty) }.program line name args
  if s.isOver then s else { s with flow := .exiting }

/-! ### Parameters -/

/-- The value of a parameter that is no list. -/
def State.parameter? (s : State) (name : Octets) : Option Octets :=
  match name with
  | ['#'] => some (Octets.ofNat s.arguments.length)
  | ['?'] => some (Octets.ofNat s.status)
  | ['$'] => some Builtin.kill.selfId
  | ['!'] => some (Octets.ofString "4243")
  | ['-'] => some (if s.strict then ['e'] else [])
  | ['@'] | ['*'] =>
    if s.arguments.isEmpty then none else some (([' '] : Octets).intercalate s.arguments)
  | _ =>
    match Octets.digits? name with
    | some 0 => some s.name
    | some (n + 1) => s.arguments[n]?
    | none => s.value? name

/-- Whether a parameter counts as set; with a colon, an empty one does not. -/
def counts (colon : Bool) : Option Octets → Bool
  | none => false
  | some value => !(colon && value.isEmpty)

/-! ### Redirections -/

/-- A redirection of a descriptor to a file, if the file can be opened. -/
def State.open? (descriptor : Nat) (mode : FileMode) (target : Octets) (s : State) :
    Except FileError State :=
  let path := Octets.text target
  let sink? : Option Sink :=
    if target = "/dev/null".toList then some .nowhere
    else if target = "/dev/stdout".toList then s.sinks.lookup 1
    else if target = "/dev/stderr".toList then s.sinks.lookup 2
    else none
  match mode, sink? with
  | .read, _ => do
    let content ← Utility.contentOf s.files s.input target
    return if descriptor = 0 then { s with input := content } else s
  | _, some sink => .ok (s.lead descriptor sink)
  | mode, none => do
    let old := (s.files.read path).toOption
    let content := if mode == .append then old.getD [] else []
    let _ ← s.files.write path content
    let s := if mode == .append && old.isSome then s else s.change (.write path content)
    return s.lead descriptor (.file (s.fullPath path))

/-- The complaint about a file that cannot be opened. -/
def openComplaint (mode : FileMode) (target : Octets) (e : FileError) : Octets :=
  let (verb, missing) := if mode == .read then ("open ", "No such file")
    else ("create ", "Directory nonexistent")
  let reason := if e == .notFound then missing.toList else Utility.fileReason e
  "cannot ".toList ++ verb.toList ++ target ++ ": ".toList ++ reason

/-- A descriptor leads where another one leads. -/
def State.duplicated (descriptor : Nat) (source : Octets) (s : State) : State :=
  match Octets.digits? source with
  | some n =>
    match s.sinks.lookup n with
    | some sink => s.lead descriptor sink
    | none => s
  | none => if descriptor = 0 then { s with input := [] } else s.lead descriptor .nowhere

/-- A script after a command with redirections, whose descriptors lead where they led before. -/
def State.restored (s : State) (redirects : List Redirect) (before : State) : State :=
  let takesInput := redirects.any fun r => match r with
    | .file 0 .. | .duplicate 0 _ | .document _ => true
    | _ => false
  { s with sinks := before.sinks, input := if takesInput then before.input else s.input }

/-- A script after a command; if it is strict, a failure ends it unless the command is guarded. -/
def State.checked (guarded : Bool) (s : State) : State :=
  if s.strict && !guarded && s.status != 0 && s.isOnward then { s with flow := .exiting } else s

/-! ### Commands -/

mutual

/-- The elements of a word, expanded piece by piece. -/
def expand : Nat → Word → State → List Element × State
  | 0, _, s => ([], { s with flow := .cut })
  | _ + 1, [], s => ([], s)
  | fuel + 1, piece :: rest, s =>
    let (first, s) := expandPiece fuel piece s
    let (more, s) := expand fuel rest s
    (first ++ more, s)

/-- The elements of a piece. -/
def expandPiece : Nat → Piece → State → List Element × State
  | 0, _, s => ([], { s with flow := .cut })
  | fuel + 1, piece, s =>
    match piece with
    | .text t quoted => (Element.ofText t quoted, s)
    | .parameter name change quoted =>
      let value := s.parameter? name
      let whole : List Element :=
        if name = ['@'] ∨ (name = ['*'] ∧ !quoted) then Element.ofValues s.arguments quoted
        else Element.ofValue (value.getD []) quoted
      match change with
      | .plain => (whole, s)
      | .length => (Element.ofValue (Octets.ofNat (value.getD []).length) quoted, s)
      | .orElse colon word =>
        if counts colon value then (whole, s) else expandInner fuel quoted word s
      | .instead colon word =>
        if counts colon value then expandInner fuel quoted word s
        else (Element.ofText [] quoted, s)
      | .orAssign colon word =>
        if counts colon value then (whole, s)
        else
          let (es, s) := expand fuel word s
          let value := plain (joined es)
          (Element.ofValue value quoted, s.assign name value)
      | .withoutStart longest word =>
        let (es, s) := expand fuel word s
        (Element.ofValue (withoutStart longest (patternOf es) (value.getD [])) quoted, s)
      | .withoutEnd longest word =>
        let (es, s) := expand fuel word s
        (Element.ofValue (withoutEnd longest (patternOf es) (value.getD [])) quoted, s)
    | .output body quoted =>
      -- The text is what a shell of its own writes to the stream that is collected.
      let (stream, inner) := s.forked.collecting
      let inner := exec fuel false body inner
      let text := (Octets.trimLineEnds (inner.written stream)).filter (· ≠ '\x00')
      let s := s.joinedBy inner
      (Element.ofValue text quoted, { s with collected := some s.status })
    | .arithmetic expression quoted =>
      let (es, s) := expand fuel expression s
      match Arithmetic.value s.bindings (plain (joined es)) with
      | some (v, bindings) => (Element.ofValue (Octets.ofInt v) quoted, { s with bindings })
      | none => ([], { s with status := 2, flow := .exiting })

/-- The elements of a word that stands inside a parameter. -/
def expandInner : Nat → Bool → Word → State → List Element × State
  | 0, _, _, s => ([], { s with flow := .cut })
  | fuel + 1, quoted, word, s =>
    let (es, s) := expand fuel word s
    ((if quoted then [.quote] else []) ++ es.map fun e => match e with
      | .octet c q _ => .octet c (q || quoted) (!q && !quoted)
      | e => e, s)

/-- The fields of some words. -/
def expandWords : Nat → List Word → State → List Octets × State
  | 0, _, s => ([], { s with flow := .cut })
  | _ + 1, [], s => ([], s)
  | fuel + 1, word :: rest, s =>
    let (es, s) := expand fuel word s
    let first := (fields s.separators es).map plain
    let (more, s) := expandWords fuel rest s
    (first ++ more, s)

/-- Redirections take place; false if one cannot. -/
def redirect : Nat → Nat → List Redirect → State → Bool × State
  | 0, _, _, s => (false, { s with flow := .cut })
  | _ + 1, _, [], s => (true, s)
  | fuel + 1, line, r :: rest, s =>
    match r with
    | .file descriptor mode target =>
      let (es, s) := expand fuel target s
      let target := plain (joined es)
      match s.open? descriptor mode target with
      | .ok s => redirect fuel line rest s
      | .error e => (false, (s.complain line (openComplaint mode target e)).withStatus 2)
    | .duplicate descriptor source =>
      let (es, s) := expand fuel source s
      redirect fuel line rest (s.duplicated descriptor (plain (joined es)))
    | .document content =>
      let (es, s) := expand fuel content s
      redirect fuel line rest { s with input := plain (joined es) }

/-- Assignments take place. -/
def assignAll : Nat → List (Octets × Word) → State → State
  | 0, _, s => { s with flow := .cut }
  | _ + 1, [], s => s
  | fuel + 1, (name, word) :: rest, s =>
    let (es, s) := expand fuel word s
    assignAll fuel rest (s.assign name (plain (joined es)))

/-- A command with its arguments: a function, what the shell does itself, or a program. -/
def call : Nat → Bool → Nat → Octets → List Octets → State → State
  | 0, _, _, _, _, s => { s with flow := .cut }
  | fuel + 1, guarded, line, name, args, s =>
    match s.functions.lookup name with
    | some body =>
      let inner := exec fuel guarded body { s with arguments := args, locals := [] }
      -- What the function made local gets its old value back, and `return` ends the function only.
      let inner := inner.locals.foldl State.putBack inner
      let inner := { inner with arguments := s.arguments, locals := s.locals }
      if inner.flow == .returning then { inner with flow := .onward } else inner
    | none =>
      match String.ofList name, args with
      | "eval", _ =>
        match parse (([' '] : Octets).intercalate args) with
        | some c => exec fuel guarded c (s.withStatus 0)
        | none => { s with status := 2, flow := .exiting }
      | ".", path :: _ =>
        let script := (s.files.read (Octets.text path)).toOption.map Octets.ofBytes
        match script.bind parse with
        | some c =>
          let s := exec fuel guarded c (s.withStatus 0)
          if s.flow == .returning then { s with flow := .onward } else s
        | none => { s with status := 2, flow := .exiting }
      | "exec", [] => s.withStatus 0
      | "exec", program :: rest => s.replaced line program rest
      | "command", ['-', 'v'] :: program :: _ =>
        if (s.functions.lookup program).isSome || (Builtin.run line program [] s).isSome then
          (s.withStatus 0).emit 1 (program ++ ['\n'])
        else
          match s.utility? program with
          | some utility =>
            (s.withStatus 0).emit 1 (Octets.ofString ("/usr/bin/" ++ utility ++ "\n"))
          | none => s.withStatus 127
      | "command", program :: rest =>
        -- Functions are passed over, so the command is what the shell or a program does.
        let after := call fuel guarded line program rest { s with functions := [] }
        { after with functions := s.functions }
      | _, _ => (Builtin.run line name args s).getD (s.program line name args)

/-- A simple command. -/
def simple : Nat → Bool → Nat → List (Octets × Word) → List Word → List Redirect → State → State
  | 0, _, _, _, _, _, s => { s with flow := .cut }
  | fuel + 1, guarded, line, assignments, words, redirects, s =>
    let (args, before) := expandWords fuel words { s with collected := none }
    let (opened, s) :=
      if before.isOnward then redirect fuel line redirects before else (false, before)
    if !opened then s.restored redirects before
    else
      -- Assignments in front of a command last for that command only.
      let old := assignments.map fun (name, _) => (name, s.value? name)
      let s := (assignAll fuel assignments s).pass (some ownCost)
      if !s.isOnward then s.restored redirects before
      else
        match args with
        | [] => (s.withStatus (s.collected.getD 0)).restored redirects before
        | name :: rest =>
          let after := old.foldl State.putBack (call fuel guarded line name rest s)
          -- Without a command to run, redirections stay for the rest of the script.
          if name = "exec".toList ∧ rest = [] then after else after.restored redirects before

/-- The handlers of the signals that have come are run. -/
def handle : Nat → State → State
  | 0, s => { s with flow := .cut }
  | fuel + 1, s =>
    if !s.isOnward then s
    else
      match s.caught with
      | none => s
      | some (action, s) =>
        let status := s.status
        let s := match parse action with
          | some c => exec fuel false c s
          | none => s
        handle fuel (if s.isOnward then s.withStatus status else s)

/-- A command. If `guarded`, a script is not ended by its failure. -/
def exec : Nat → Bool → Command → State → State
  | 0, _, _, s => { s with flow := .cut }
  | fuel + 1, guarded, c, s =>
    if !s.isOnward then s
    else
      match c with
      | .simple line assignments words redirects =>
        (handle fuel (simple fuel guarded line assignments words redirects s)).checked guarded
      | .pipeline stages =>
        (execStages fuel stages s.now s).checked guarded
      | .negated c =>
        let s := exec fuel true c s
        if s.isOnward then s.withStatus (if s.status = 0 then 1 else 0) else s
      | .both first second =>
        let s := exec fuel true first s
        if s.isOnward && s.status == 0 then exec fuel guarded second s else s
      | .either first second =>
        let s := exec fuel true first s
        if s.isOnward && s.status != 0 then exec fuel guarded second s else s
      | .sequence items => execItems fuel guarded items s
      | .group false body => exec fuel guarded body s
      | .group true body =>
        (s.joinedBy (exec fuel guarded body s.forked)).checked guarded
      | .conditional test body otherwise =>
        let s := exec fuel true test s
        if !s.isOnward then s
        else if s.status = 0 then exec fuel guarded body s
        else exec fuel guarded otherwise (s.withStatus 0)
      | .loop till test body => execLoop fuel guarded till test body 0 s
      | .each name words body =>
        let (values, s) := match words with
          | some ws => expandWords fuel ws s
          | none => (s.arguments, s)
        execEach fuel guarded name values body (if s.isOnward then s.withStatus 0 else s)
      | .choice subject branches =>
        let (es, s) := expand fuel subject s
        execChoice fuel guarded (plain (joined es)) branches
          (if s.isOnward then s.withStatus 0 else s)
      | .define name body =>
        { s with functions := (name, body) :: s.functions, status := 0 }
      | .background c =>
        let redirects := match c with
          | .simple _ _ _ rs | .redirected _ _ rs => rs
          | _ => []
        -- A command in the background keeps the streams open unless it is redirected elsewhere.
        let held := (redirect fuel 0 redirects s.forked).2.holdsStreams
        let child := exec fuel guarded c { s.forked with input := [] }
        -- One that is cut has not ended by the horizon.
        let ended := if child.isOver then s.horizon + 1 else child.now
        let joined := s.joinedBy child
        { joined with
          status := 0, flow := s.flow, input := s.input, now := s.now
          backgroundEnd := max s.backgroundEnd ended
          streamsEnd := max s.streamsEnd (if held then ended else 0) }
      | .redirected line c redirects =>
        let (opened, inner) := redirect fuel line redirects s
        (if opened then exec fuel guarded c inner else inner).restored redirects s

/-- Commands, one after another. -/
def execItems : Nat → Bool → List Command → State → State
  | 0, _, _, s => { s with flow := .cut }
  | _ + 1, _, [], s => s
  | fuel + 1, guarded, c :: rest, s =>
    let s := exec fuel guarded c s
    if s.isOnward then execItems fuel guarded rest s else s

/-- The stages of a pipeline, which all start at one time. -/
def execStages : Nat → List Command → Nat → State → State
  | 0, _, _, s => { s with flow := .cut }
  | _ + 1, [], _, s => s
  | fuel + 1, [c], start, s =>
    let finish := s.now
    let s := s.joinedBy (exec fuel true c { s.forked with now := start })
    { s with now := max s.now finish }
  | fuel + 1, c :: rest, start, s =>
    let finish := s.now
    let (stream, inner) := { s.forked with now := start }.collecting
    let inner := exec fuel true c inner
    -- The next stage reads what this one wrote, and starts at the same moment.
    let text := inner.written stream
    let input := s.input
    let s := s.joinedBy inner
    if s.isOver then s
    else
      let s := execStages fuel rest start { s with now := max s.now finish, input := text }
      { s with input }

/-- A loop; `last` is the status of its last turn. -/
def execLoop : Nat → Bool → Bool → Command → Command → Nat → State → State
  | 0, _, _, _, _, _, s => { s with flow := .cut }
  | fuel + 1, guarded, till, test, body, last, s =>
    let s := exec fuel true test s
    -- `till` turns the test around.
    let goesOn := (s.status == 0) != till
    let s := if s.isOnward && goesOn then exec fuel guarded body s else s
    match s.flow with
    | .onward =>
      if goesOn then execLoop fuel guarded till test body s.status s else s.withStatus last
    -- Of several loops to leave, this one is the first.
    | .leaving (n + 2) => { s with flow := .leaving (n + 1) }
    | .leaving _ => { s with flow := .onward }
    | .again (n + 2) => { s with flow := .again (n + 1) }
    | .again _ => execLoop fuel guarded till test body s.status { s with flow := .onward }
    | _ => s

/-- A loop over values. -/
def execEach : Nat → Bool → Octets → List Octets → Command → State → State
  | 0, _, _, _, _, s => { s with flow := .cut }
  | _ + 1, _, _, [], _, s => s
  | fuel + 1, guarded, name, value :: rest, body, s =>
    let s := exec fuel guarded body (s.assign name value)
    match s.flow with
    | .onward => execEach fuel guarded name rest body s
    | .leaving (n + 2) => { s with flow := .leaving (n + 1) }
    | .leaving _ => { s with flow := .onward }
    | .again (n + 2) => { s with flow := .again (n + 1) }
    | .again _ => execEach fuel guarded name rest body { s with flow := .onward }
    | _ => s

/-- The first branch with a pattern that fits. -/
def execChoice : Nat → Bool → Octets → List (List Word × Command) → State → State
  | 0, _, _, _, s => { s with flow := .cut }
  | _ + 1, _, _, [], s => s
  | fuel + 1, guarded, subject, (patterns, body) :: rest, s =>
    let (fits, s) := anyFits fuel subject patterns s
    if !s.isOnward then s
    else if fits then exec fuel guarded body s
    else execChoice fuel guarded subject rest s

/-- Whether one of some patterns fits. -/
def anyFits : Nat → Octets → List Word → State → Bool × State
  | 0, _, _, s => (false, { s with flow := .cut })
  | _ + 1, _, [], s => (false, s)
  | fuel + 1, subject, word :: rest, s =>
    let (es, s) := expand fuel word s
    if Pattern.matches (patternOf es) subject then (true, s) else anyFits fuel subject rest s

end

/-! ### Whole scripts -/

/-- How a script ended. -/
inductive ScriptEnd
  | exited (status : Nat)
  | killed
  deriving Repr, DecidableEq

/-- How a script stands at its horizon. -/
structure Transcript where
  out : Octets
  err : Octets
  /-- What was done to the files, in order. -/
  changes : List FileChange
  /-- How and when it ended; nothing if it still runs. -/
  ending : Option (ScriptEnd × Nat)
  /-- When the streams were closed at the earliest. -/
  streamsEnd : Nat

/-- The end of a script at its state. -/
def State.ending (s : State) : Option (ScriptEnd × Nat) :=
  match s.flow with
  | .cut => none
  | .killed => some (.killed, s.now)
  | _ => some (.exited (s.status % 256), s.now)

/-- How a script stands at its state. -/
def State.transcript (s : State) : Transcript :=
  { out := s.written 0, err := s.written 1, changes := s.changes.reverse, ending := s.ending
    streamsEnd := max s.streamsEnd s.now }

/-- The fuel that a script cannot use up before its horizon. -/
def fuelFor (script : Octets) (horizon : Nat) : Nat :=
  (64 * script.length + 4096) * (horizon / ownCost + 2)

/-- A script, run up to a horizon. One that is not well-formed does nothing. -/
def execute (script : Octets) (start : State) : Transcript :=
  let fuel := fuelFor script start.horizon
  match parse script with
  | none => State.transcript { start with status := 2 }
  | some c =>
    let s := exec fuel false c (start.pass (some startCost))
    match s.isOver, s.traps.lookup 0 with
    | false, some action =>
      let handler := (parse action).getD .nothing
      let last := exec fuel false handler { s with flow := .onward, traps := [] }
      -- The handler decides the status only if it exits by itself.
      let decides := last.flow == .exiting || last.isOver
      State.transcript (if decides then last else last.withStatus s.status)
    | _, _ => s.transcript

end PolicyTrial.Shell
